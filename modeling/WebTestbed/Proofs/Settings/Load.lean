import WebTestbed.Proofs.Settings.Ini
import WebTestbed.Proofs.Settings.Setting

/-! What is loaded from a settings file: what the file gives a setting, and else the default. -/
namespace WebTestbed

/-- A text of printable ASCII, without quotes, backslashes and blanks around it. -/
structure IsPlain (v : String) : Prop where
  nonempty : v.toList ≠ []
  printable : ∀ c ∈ v.toList, 0x20 ≤ c.toNat ∧ c.toNat ≤ 0x7E
  plain : ∀ c ∈ v.toList, c ≠ '"' ∧ c ≠ '\'' ∧ c ≠ '\\'
  tidy : Ini.IsTidy v

instance (v : String) : Decidable (IsPlain v) :=
  decidable_of_iff (v.toList ≠ [] ∧ (v.toList.all fun c => 0x20 ≤ c.toNat ∧ c.toNat ≤ 0x7E) ∧
      (v.toList.all fun c => c ≠ '"' ∧ c ≠ '\'' ∧ c ≠ '\\') ∧ Ini.IsTidy v)
    ⟨fun h => ⟨h.1, by simpa using h.2.1, by simpa using h.2.2.1, h.2.2.2⟩,
      fun h => ⟨h.nonempty, by simpa using h.printable, by simpa using h.plain, h.tidy⟩⟩

/-- The value that a text is written for: a port is written as a number of at most 16 bits. -/
inductive Setting.Means (x : Setting) (v : String) : Setting.Value → Prop where
  | text (hx : x.isPort = false) (hv : IsPlain v) : Means x v (.text v)
  | port {n : Nat} (hx : x.isPort = true) (hv : Numeral.read? v.toList = some n) (hn : n ≤ 65535) :
      Means x v (.number n)

theorem IsPlain.isValue {v : String} (h : IsPlain v) : Ini.IsValue v where
  tidy := h.tidy
  start c hc := (h.plain c (List.mem_of_mem_head? hc)).imp_right And.left
  plain c hc := by
    have hprintable := h.printable c hc
    refine ⟨(h.plain c hc).2.2, ?_, ?_⟩ <;> rintro rfl <;> simp at hprintable

theorem isValue_of_read? {v : String} {n : Nat} (h : Numeral.read? v.toList = some n) :
    Ini.IsValue v := by
  have hdigit : ∀ c ∈ v.toList, 48 ≤ c.toNat ∧ c.toNat ≤ 57 := by
    intro c hc
    simpa [Char.isDigit, UInt32.le_iff_toNat_le] using Numeral.isDigit_of_read? h c hc
  have hne {c d : Char} (hc : c ∈ v.toList) (hd : ¬ (48 ≤ d.toNat ∧ d.toNat ≤ 57)) : c ≠ d := by
    rintro rfl
    exact hd (hdigit c hc)
  have hblank {c : Char} (hc : c ∈ v.toList) : Text.isBlank c = false := by
    have hdigit := hdigit c hc
    simp only [Text.isBlank, Bool.or_eq_false_iff, Bool.and_eq_false_iff, decide_eq_false_iff_not,
      beq_eq_false_iff_ne]
    omega
  constructor
  case tidy =>
    exact Text.trim_eq_self_iff.mpr ⟨fun c hc => hblank (List.mem_of_mem_head? hc),
      fun c hc => hblank (List.mem_of_mem_getLast? hc)⟩
  case start =>
    intro c hc
    exact ⟨hne (List.mem_of_mem_head? hc) (by decide), hne (List.mem_of_mem_head? hc) (by decide)⟩
  case plain =>
    intro c hc
    exact ⟨hne hc (by decide), hne hc (by decide), hne hc (by decide)⟩

section Means

variable {x : Setting} {v : String} {a : Setting.Value}

theorem Setting.Means.isValue (h : x.Means v a) : Ini.IsValue v := by
  cases h with
  | text hx hv => exact hv.isValue
  | port hx hv hn => exact isValue_of_read? hv

/-- A text is read as the value that it is written for. -/
theorem Setting.Means.read? (h : x.Means v a) : x.read? v = some a := by
  cases h with
  | text hx hv => exact Settings.read?_of_not_isPort hx
  | port hx hv hn =>
    rw [Settings.read?_of_numeral hx hv, if_pos (hn.trans (by decide)),
      Nat.mod_eq_of_lt (Nat.lt_succ_of_le hn)]

end Means

namespace Settings

variable {t : FileTree} {p : Path} {file : Ini.Sections} {name text : String}

/-- The defaults, with what stands at the top of a file added one by one. -/
def overlaid (file : Ini.Sections) : Node :=
  (Node.ofSections file).foldl (fun n f => n.addKey f.1 f.2) (toNode {})

/-- A tree that holds one settings file. -/
def treeOf (content : String) : FileTree :=
  ⟨[], [(["c"], .file (Utf8.encode content) false)]⟩

/-- The file that is loaded for a path. -/
def fileOf (t : FileTree) (p : Path) : Path :=
  if t.isFile p then p else withIni p

theorem load_eq (htext : t.readText (fileOf t p) = .ok text)
    (hfile : Ini.read text.toList = .ok file) : load t p = ofNode (overlaid file) := by
  unfold fileOf at htext
  unfold load
  simp only [htext, ofText, hfile]
  rfl

/-- A file gives a setting a text, and nothing else at the top of the file touches the setting. -/
def Gives (file : Ini.Sections) (x : Setting) (v : String) : Prop :=
  ∃ f ∈ Node.ofSections file, Node.Sets x.sectionName x.key (.text v) f ∧
    ∀ g ∈ Node.ofSections file, g.1 ≠ f.1 → Node.Leaves x.sectionName x.key g

theorem Gives.at?_overlaid {x : Setting} {v : String} (h : Gives file x v) :
    (overlaid file).at? x.sectionName x.key = some (.text v) := by
  obtain ⟨f, hf, hsets, hothers⟩ := h
  exact Node.at?_foldl_addKey_of_sets (Node.nodup_ofSections file) hf hsets hothers (toNode {})

theorem readKey_of_mem_sectionNames (h : name ∈ sectionNames) : Node.readKey name = (name, []) := by
  simp only [sectionNames, List.mem_cons, List.not_mem_nil, or_false] at h
  obtain rfl | rfl | rfl := h <;> decide +kernel

theorem isName_of_mem_sectionNames (h : name ∈ sectionNames) : Ini.IsName name := by
  simp only [sectionNames, List.mem_cons, List.not_mem_nil, or_false] at h
  obtain rfl | rfl | rfl := h <;> decide

end Settings

theorem Setting.isKey_key (x : Setting) : Ini.IsKey x.key := by
  cases x <;> decide

/-- Settings by section, with texts for their values. Sections and settings stand in any order, and
each at most once. -/
structure SettingsFile where
  sections : List (String × List (Setting × String))
  names : ∀ s ∈ sections, s.1 ∈ Settings.sectionNames
  sections_nodup : (sections.map Prod.fst).Nodup
  home : ∀ s ∈ sections, ∀ e ∈ s.2, e.1.sectionName = s.1
  settings_nodup : ∀ s ∈ sections, (s.2.map Prod.fst).Nodup

namespace SettingsFile

open Settings

/-- The settings that a file names, with their texts. -/
def given (f : SettingsFile) : List (Setting × String) :=
  f.sections.flatMap Prod.snd

/-- The sections with the keys of the settings. -/
def ini (f : SettingsFile) : List (String × Ini.Properties) :=
  f.sections.map fun s => (s.1, s.2.map fun e => (e.1.key, e.2))

/-- The file as it is written. -/
def text (f : SettingsFile) : String :=
  String.ofList (Ini.write f.ini)

variable {f : SettingsFile} {s : String × List (Setting × String)} {x : Setting} {name v : String}

theorem read_text (h : ∀ e ∈ f.given, Ini.IsValue e.2) :
    Ini.read f.text.toList = .ok ⟨[], f.ini⟩ := by
  rw [text, String.toList_ofList]
  refine Ini.read_write fun r hr => ?_
  obtain ⟨s, hs, rfl⟩ := List.mem_map.mp hr
  refine ⟨isName_of_mem_sectionNames (f.names s hs), fun p hp => ?_⟩
  obtain ⟨e, he, rfl⟩ := List.mem_map.mp hp
  exact ⟨e.1.isKey_key, h e (List.mem_flatMap.mpr ⟨s, hs, he⟩)⟩

/-- The keys of a section with their values. -/
def fields (es : List (Setting × String)) : List (String × Node) :=
  es.map fun e => (e.1.key, .text e.2)

theorem nodup_keys (hs : s ∈ f.sections) : (s.2.map fun e => e.1.key).Nodup := by
  have hkeys := (f.settings_nodup s hs).map Setting.key_injective
  rwa [List.map_map] at hkeys

/-- At the top of the file stands a table for each section. -/
theorem ofSections_ini (f : SettingsFile) : Node.ofSections ⟨[], f.ini⟩ =
    f.sections.map fun s => (s.1, .table (fields s.2)) := by
  have hnames : (f.ini.map Prod.fst).Nodup := by
    rw [ini, List.map_map]
    exact f.sections_nodup
  have htables := Node.foldl_assign_of_nodup (fun ps => .table (Node.ofProperties ps)) hnames
  refine htables.trans ?_
  rw [ini, List.map_map]
  refine List.map_congr_left fun s hs => ?_
  have hkeys : ((s.2.map fun e => (e.1.key, e.2)).map Prod.fst).Nodup := by
    rw [List.map_map]
    exact nodup_keys hs
  have hprops := Node.foldl_assign_of_nodup Node.text hkeys
  rw [List.map_map] at hprops
  exact congrArg (fun fs => (s.1, Node.table fs)) hprops

theorem get?_overlaid (f : SettingsFile) (hname : name ∈ sectionNames) :
    ∃ fs, (overlaid ⟨[], f.ini⟩).get? name = some (.table fs) := by
  refine Node.get?_foldl_addKey_table ?_ (get?_toNode {} hname)
  rw [ofSections_ini, List.forall_mem_map]
  intro s hs
  exact ⟨readKey_of_mem_sectionNames (f.names s hs), _, rfl⟩

/-- A section that does not name a setting leaves it alone. -/
theorem leaves_of_not_mem (hs : s ∈ f.sections) (hx : x ∉ s.2.map Prod.fst) :
    Node.Leaves x.sectionName x.key (s.1, .table (fields s.2)) := by
  have hkey := readKey_of_mem_sectionNames (f.names s hs)
  by_cases hname : s.1 = x.sectionName
  · refine .without (hkey.trans (congrArg (·, []) hname)) ?_
    rw [fields, List.map_map, List.mem_map]
    rintro ⟨e, he, hsame⟩
    exact hx (Setting.key_injective hsame ▸ List.mem_map_of_mem he)
  · exact .elsewhere (by rwa [hkey])

theorem sets_of_mem (hs : s ∈ f.sections) (hx : (x, v) ∈ s.2) :
    Node.Sets x.sectionName x.key (.text v) (s.1, .table (fields s.2)) := by
  have hname : x.sectionName = s.1 := f.home s hs (x, v) hx
  have hkey := readKey_of_mem_sectionNames (f.names s hs)
  have hnodup : ((fields s.2).map Prod.fst).Nodup := by
    rw [fields, List.map_map]
    exact nodup_keys hs
  refine .inSection (hkey.trans (congrArg (·, []) hname.symm)) ?_
  rw [lookup_reverse hnodup, lookup_eq_some_iff hnodup]
  exact List.mem_map.mpr ⟨(x, v), hx, rfl⟩

theorem gives (h : (x, v) ∈ f.given) : Gives ⟨[], f.ini⟩ x v := by
  obtain ⟨s, hs, hx⟩ := List.mem_flatMap.mp h
  refine ⟨(s.1, .table (fields s.2)), ?_, sets_of_mem hs hx, ?_⟩
  · rw [ofSections_ini]
    exact List.mem_map.mpr ⟨s, hs, rfl⟩
  · rw [ofSections_ini, List.forall_mem_map]
    intro r hr hne
    refine leaves_of_not_mem hr fun hmem => hne ?_
    obtain ⟨e, he, rfl⟩ := List.mem_map.mp hmem
    exact (f.home r hr e he).symm.trans (f.home s hs (e.1, v) hx)

theorem at?_overlaid_of_not_mem (h : x ∉ f.given.map Prod.fst) :
    (overlaid ⟨[], f.ini⟩).at? x.sectionName x.key = (toNode {}).at? x.sectionName x.key := by
  refine Node.at?_foldl_addKey_of_leaves ?_ _
  rw [ofSections_ini, List.forall_mem_map]
  intro s hs
  refine leaves_of_not_mem hs fun hmem => h ?_
  obtain ⟨e, he, rfl⟩ := List.mem_map.mp hmem
  exact List.mem_map_of_mem (List.mem_flatMap.mpr ⟨s, hs, he⟩)

variable {t : FileTree} {p : Path}

/-- Where every text can be read, each setting is what its text is read as, or else the default. -/
theorem exists_load_eq_ok (htext : t.readText (fileOf t p) = .ok f.text)
    (hvalue : ∀ e ∈ f.given, Ini.IsValue e.2) (hread : ∀ e ∈ f.given, (e.1.read? e.2).isSome) :
    ∃ s, load t p = .ok s ∧ ∀ x, (∀ v, (x, v) ∈ f.given → x.read? v = some (s.get x)) ∧
      (x ∉ f.given.map Prod.fst → s.get x = ({} : Settings).get x) := by
  have hpoint (x : Setting) : ∃ v a, (overlaid ⟨[], f.ini⟩).at? x.sectionName x.key =
      some (.text v) ∧ x.read? v = some a := by
    by_cases hx : x ∈ f.given.map Prod.fst
    · obtain ⟨e, he, rfl⟩ := List.mem_map.mp hx
      obtain ⟨a, ha⟩ := Option.isSome_iff_exists.mp (hread e he)
      exact ⟨e.2, a, (gives he).at?_overlaid, ha⟩
    · exact ⟨_, _, (at?_overlaid_of_not_mem hx).trans (at?_toNode {} x), read?_write {} x⟩
  choose text value hat ha using hpoint
  obtain ⟨s, hs, rfl⟩ := exists_ofNode_eq_ok (fun _ => get?_overlaid f)
    fun x => ⟨text x, hat x, ha x⟩
  refine ⟨s, (load_eq htext (read_text hvalue)).trans hs, fun x => ⟨?_, ?_⟩⟩
  · intro v hv
    have hsame : v = text x := by simpa using (gives hv).at?_overlaid.symm.trans (hat x)
    exact hsame ▸ ha x
  · intro hx
    have hdefault := (at?_overlaid_of_not_mem hx).trans (at?_toNode {} x)
    have hsame : text x = (({} : Settings).get x).write := by
      simpa using (hat x).symm.trans hdefault
    exact Option.some.inj ((ha x).symm.trans (hsame ▸ read?_write {} x))

/-- A settings file replaces the defaults of the settings that it names and of no others. -/
theorem load_overrides (f : SettingsFile) (hmeans : ∀ e ∈ f.given, ∃ a, e.1.Means e.2 a)
    (htext : t.readText (fileOf t p) = .ok f.text) :
    ∃ s, load t p = .ok s ∧ ∀ x, (∀ v, (x, v) ∈ f.given → x.Means v (s.get x)) ∧
      (x ∉ f.given.map Prod.fst → s.get x = ({} : Settings).get x) := by
  obtain ⟨s, hs, hget⟩ := exists_load_eq_ok htext
    (fun e he => (hmeans e he).elim fun _ h => h.isValue)
    fun e he => (hmeans e he).elim fun a h => Option.isSome_iff_exists.mpr ⟨a, h.read?⟩
  refine ⟨s, hs, fun x => ⟨fun v hv => ?_, (hget x).2⟩⟩
  obtain ⟨a, ha⟩ := hmeans (x, v) hv
  have hsame := ha.read?.symm.trans ((hget x).1 v hv)
  exact Option.some.inj hsame ▸ ha

/-- Two sections and three of the settings. -/
def sample : SettingsFile where
  sections := [("httpd", [(.sharedModules, "mime ssl")]),
    ("test", [(.domain, "example.org"), (.httpPort, "08080")])]
  names := by decide
  sections_nodup := by decide
  home := by decide
  settings_nodup := by decide

theorem load_overrides_sample : ∃ s, load (treeOf sample.text) "c" = .ok s ∧
    s.get .sharedModules = .text "mime ssl" ∧ s.get .httpPort = .number 8080 ∧
    s.get .httpsPort = .number 5001 := by
  have hmeans : ∀ e ∈ sample.given, ∃ a, e.1.Means e.2 a := by
    intro e he
    have hcases : e = (.sharedModules, "mime ssl") ∨ e = (.domain, "example.org") ∨
        e = (.httpPort, "08080") := by simpa [given, sample] using he
    obtain rfl | rfl | rfl := hcases
    · exact ⟨_, .text rfl (by decide)⟩
    · exact ⟨_, .text rfl (by decide)⟩
    · exact ⟨.number 8080, .port rfl (by decide) (by decide)⟩
  have htext : (treeOf sample.text).readText (fileOf (treeOf sample.text) "c") =
      .ok sample.text := by
    decide +kernel
  obtain ⟨s, hs, hget⟩ := load_overrides sample hmeans htext
  refine ⟨s, hs, ?_, ?_, (hget .httpsPort).2 (by decide)⟩
  · have hread := ((hget .sharedModules).1 "mime ssl" (by decide)).read?
    exact (Option.some.inj hread).symm
  · have hread := ((hget .httpPort).1 "08080" (by decide)).read?
    exact Option.some.inj (hread.symm.trans (by decide))

end SettingsFile

end WebTestbed
