import Mathlib.Data.List.Permutation
import WebTestbed.Proofs.Files.Operation
import WebTestbed.Proofs.ServerRoot.Change

/-! Configuration sources in their places: what the order in which they are listed has to do with
it. -/
namespace WebTestbed.ServerRoot
open FileTree Change

variable {s : ServerRoot} {t u v : FileTree} {name stem : String} {names listed : List String}

theorem templateStem?_eq_some :
    templateStem? name = some stem ↔ name = stem ++ ".template" ∧ stem ≠ "" := by
  have hname : name = stem ++ ".template" ↔
      name.toList.reverse = templateSuffix.reverse ++ stem.toList.reverse := by
    rw [← String.toList_inj, String.toList_append, ← List.reverse_inj, List.reverse_append]
    rfl
  rw [hname, templateStem?]
  constructor
  · intro h
    split at h
    · next hc =>
      rw [Bool.and_eq_true, List.isPrefixOf_iff_prefix, decide_eq_true_eq] at hc
      obtain ⟨⟨r, hr⟩, hlength⟩ := hc
      rw [← hr, ← List.length_reverse, List.drop_left, Option.some.injEq] at h
      rw [← hr, List.length_append, List.length_reverse] at hlength
      subst h
      rw [String.toList_ofList, List.reverse_reverse]
      refine ⟨hr.symm, fun hempty => ?_⟩
      rw [String.ofList_eq_empty_iff, List.reverse_eq_nil_iff] at hempty
      simp [hempty] at hlength
    · cases h
  · rintro ⟨h, hstem⟩
    have hpos : 0 < stem.toList.length :=
      List.length_pos_iff.mpr (mt String.toList_eq_nil_iff.mp hstem)
    rw [if_pos, h, ← List.length_reverse, List.drop_left, List.reverse_reverse, String.ofList_toList]
    rw [h, Bool.and_eq_true, List.isPrefixOf_iff_prefix, decide_eq_true_eq, List.length_append,
      List.length_reverse, List.length_reverse]
    exact ⟨List.prefix_append _ _, by omega⟩

theorem fileNames_eq_ok {p : Path} (h : t.Grown) (hnames : fileNames t p = .ok names) :
    t.way? p = some (p.place t.workDir) ∧ names.Nodup ∧ ∀ name, name ∈ names ↔
      ∃ content x, t.node? (p.place t.workDir ++ [name]) = some (.file content x) := by
  obtain ⟨r, hlist, hr⟩ := bind_eq_ok_iff.mp hnames
  obtain rfl := Except.ok.inj hr
  obtain ⟨hway, hnodup, hmem⟩ := h.list_eq_ok hlist
  refine ⟨hway, hnodup.sublist (List.filter_sublist.map Prod.fst), fun name => ?_⟩
  rw [List.mem_map]
  constructor
  · rintro ⟨⟨name', n⟩, hn, rfl⟩
    obtain ⟨hn, hfile⟩ := List.mem_filter.mp hn
    cases n with
    | directory => cases hfile
    | file content x => exact ⟨content, x, (hmem _ _).mp hn⟩
  · rintro ⟨content, x, hn⟩
    exact ⟨(name, .file content x), List.mem_filter.mpr ⟨(hmem _ _).mpr hn, rfl⟩, rfl⟩

/-- The name under which a source is put into its place. -/
def target (name : String) : String :=
  (templateStem? name).getD name

/-- What a source with the given content is in its place, if it can be put there. -/
def placed? (s : ServerRoot) (name : String) (content : Bytes) : Option Bytes :=
  if (templateStem? name).isSome then do
    let text ← Utf8.decode? content
    let text ← (Template.expand (valueOf? s.env) (String.ofList text)).toOption
    return Utf8.encode text
  else some content

/-- What a source in the tree is in its place, and whether the source is executable. -/
def result? (s : ServerRoot) (t : FileTree) (name : String) : Option (Bytes × Bool) :=
  match t.node? (s.confSources.place t.workDir ++ [name]) with
  | some (.file content x) => (s.placed? name content).map (·, x)
  | _ => none

/-- The location that a source is put into. -/
def landing (s : ServerRoot) (t : FileTree) (name : String) : Location :=
  s.env.confDir.place t.workDir ++ [target name]

/-- There is room for a source. -/
structure Fits (s : ServerRoot) (t : FileTree) (name : String) : Prop where
  isName : Path.IsName (target name)
  way : t.way? s.env.confDir = some (s.env.confDir.place t.workDir)
  free : t.node? (s.landing t name) ≠ some .directory

/-- The file that a source becomes in its place. A template leaves the file that it replaces
executable. -/
def landed (name : String) (r : Bytes × Bool) (old : Option FileNode) : FileNode :=
  .file r.1 (if (templateStem? name).isSome then old.any (·.executable) else r.2)

/-- The tree with a source in its place. -/
def put (s : ServerRoot) (t u : FileTree) (name : String) : FileTree :=
  match s.result? t name with
  | some r => u.set (s.landing t name) (landed name r (u.node? (s.landing t name)))
  | none => u

theorem target_of_template {stem : String} (h : templateStem? name = some stem) :
    target name = stem := by
  rw [target, h, Option.getD_some]

theorem target_of_plain (h : templateStem? name = none) : target name = name := by
  rw [target, h, Option.getD_none]

theorem placed?_of_plain (h : templateStem? name = none) (content : Bytes) :
    s.placed? name content = some content := by
  simp [placed?, h]

/-- A template is read as text, and its variables get their values. -/
theorem placed?_of_template (h : templateStem? name = some stem) {content bytes : Bytes} :
    s.placed? name content = some bytes ↔ ∃ text filled, Utf8.decode? content = some text ∧
      Template.expand (valueOf? s.env) (String.ofList text) = .ok filled ∧
      bytes = Utf8.encode filled := by
  unfold placed?
  rw [if_pos (by simp [h])]
  cases hdecode : Utf8.decode? content with
  | none => simp
  | some text =>
    cases hexpand : Template.expand (valueOf? s.env) (String.ofList text) with
    | error e => simp [hexpand, Except.toOption]
    | ok filled => simp [hexpand, Except.toOption, eq_comm]

theorem result?_eq_some {bytes : Bytes} {x : Bool} :
    s.result? t name = some (bytes, x) ↔ ∃ content,
      t.node? (s.confSources.place t.workDir ++ [name]) = some (.file content x) ∧
        s.placed? name content = some bytes := by
  unfold result?
  constructor
  · intro h
    split at h
    · next content x' hn =>
      obtain ⟨b, hb, heq⟩ := Option.map_eq_some_iff.mp h
      obtain ⟨rfl, rfl⟩ := Prod.mk.inj heq
      exact ⟨content, hn, hb⟩
    · cases h
  · rintro ⟨content, hn, hb⟩
    simp [hn, hb]

theorem target_ne_empty (hname : Path.IsName name) : target name ≠ "" := by
  cases hstem : templateStem? name with
  | none =>
    rw [target_of_plain hstem]
    exact hname.ne_empty
  | some stem =>
    rw [target_of_template hstem]
    exact (templateStem?_eq_some.mp hstem).2

theorem slash_not_mem_target (hname : Path.IsName name) : '/' ∉ (target name).toList := by
  have hslash := hname.slash_not_mem
  cases hstem : templateStem? name with
  | none => rwa [target_of_plain hstem]
  | some stem =>
    rw [(templateStem?_eq_some.mp hstem).1, String.toList_append, List.mem_append, not_or] at hslash
    rw [target_of_template hstem]
    exact hslash.1

theorem node?_confDir {l : Location} (h : t.way? s.env.confDir = some l) :
    t.node? l = some .directory := by
  obtain ⟨-, -, -, hdir⟩ := (way?_join_eq_some (by decide : Path.IsName "conf")).mp h
  exact hdir

theorem writable_target {l : Location} {old : Bytes} {x : Bool} (h : t.Grown)
    (hname : Path.IsName name) :
    t.writable (s.env.confDir.join (target name)) = .ok (l, old, x) ↔
      s.Fits t name ∧ l = s.landing t name ∧
        (t.node? l = none ∧ old = [] ∧ x = false ∨ t.node? l = some (.file old x)) := by
  constructor
  · intro hw
    have htarget : Path.IsName (target name) :=
      h.isName_of_writable (target_ne_empty hname) (slash_not_mem_target hname)
        (fun _ => node?_confDir) hw
    have hdir := node?_ne_directory_of_writable hw
    obtain ⟨m, hm, rfl, hnode⟩ := (writable_join_eq_ok htarget).mp hw
    obtain rfl := eq_place_of_way? hm
    exact ⟨⟨htarget, hm, hdir⟩, rfl, hnode⟩
  · rintro ⟨hfits, rfl, hnode⟩
    exact (writable_join_eq_ok hfits.isName).mpr ⟨_, hfits.way, rfl, hnode⟩

theorem Fits.exists_writable (hfits : s.Fits t name) (h : t.Grown) (hname : Path.IsName name) :
    ∃ old x, t.writable (s.env.confDir.join (target name)) = .ok (s.landing t name, old, x) := by
  cases hnode : t.node? (s.landing t name) with
  | none => exact ⟨[], false, (writable_target h hname).mpr ⟨hfits, rfl, .inl ⟨hnode, rfl, rfl⟩⟩⟩
  | some n =>
    cases n with
    | directory => exact absurd hnode hfits.free
    | file old x => exact ⟨old, x, (writable_target h hname).mpr ⟨hfits, rfl, .inr hnode⟩⟩

theorem put_of_result? {r : Bytes × Bool} (h : s.result? t name = some r) :
    s.put t u name =
      u.set (s.landing t name) (landed name r (u.node? (s.landing t name))) := by
  simp only [put, h]

section Step

variable (h : t.Grown) (hname : Path.IsName name)
  (hway : t.way? s.confSources = some (s.confSources.place t.workDir))

include h hname hway

theorem leads_placeSource_of_template (hstem : templateStem? name = some stem) :
    (s.placeSource name).Leads t () u ↔
      (s.result? t name).isSome ∧ s.Fits t name ∧ u = s.put t t name := by
  have htarget := target_of_template hstem
  unfold placeSource
  simp only [hstem, leads_bind, leads_ofRead]
  constructor
  · rintro ⟨text, t', ⟨hread, rfl⟩, hlead⟩
    obtain ⟨content, decoded, hcontent, hdecode, rfl⟩ := readText_eq_ok.mp hread
    obtain ⟨l, x, hfind⟩ := read_eq_ok.mp hcontent
    obtain ⟨m, hm, rfl, hnode⟩ := (find_join_eq_ok_file hname).mp hfind
    obtain rfl := eq_place_of_way? hm
    cases hexpand : Template.expand (valueOf? s.env) (String.ofList decoded) with
    | error e => simp [hexpand] at hlead
    | ok filled =>
      simp only [hexpand, leads_ofFiles] at hlead
      obtain ⟨l, old, x', hw, rfl⟩ := write_eq_ok.mp hlead
      rw [← htarget] at hw
      obtain ⟨hfits, rfl, hold⟩ := (writable_target h hname).mp hw
      have hresult : s.result? t' name = some (Utf8.encode filled, x) :=
        result?_eq_some.mpr ⟨content, hnode,
          (placed?_of_template hstem).mpr ⟨decoded, filled, hdecode, hexpand, rfl⟩⟩
      refine ⟨by simp [hresult], hfits, ?_⟩
      rw [put_of_result? hresult, landed, hstem]
      obtain ⟨hold, -, rfl⟩ | hold := hold <;> simp [hold, FileNode.executable]
  · rintro ⟨hresult, hfits, rfl⟩
    obtain ⟨⟨bytes, x⟩, hresult⟩ := Option.isSome_iff_exists.mp hresult
    obtain ⟨content, hnode, hplaced⟩ := result?_eq_some.mp hresult
    obtain ⟨decoded, filled, hdecode, hexpand, rfl⟩ := (placed?_of_template hstem).mp hplaced
    have hfind := (find_join_eq_ok_file hname).mpr ⟨_, hway, rfl, hnode⟩
    have hread := readText_eq_ok.mpr ⟨content, decoded, read_eq_ok.mpr ⟨_, x, hfind⟩, hdecode, rfl⟩
    obtain ⟨old, x', hw⟩ := hfits.exists_writable h hname
    refine ⟨_, t, ⟨hread, rfl⟩, ?_⟩
    simp only [hexpand, leads_ofFiles]
    rw [← htarget, write_eq_ok]
    refine ⟨_, old, x', hw, ?_⟩
    rw [put_of_result? hresult, landed, hstem]
    obtain ⟨-, -, ⟨hold, -, rfl⟩ | hold⟩ := (writable_target h hname).mp hw <;>
      simp [hold, FileNode.executable]

theorem leads_placeSource_of_plain (hstem : templateStem? name = none)
    (hapart : s.confSources.place t.workDir ≠ s.env.confDir.place t.workDir) :
    (s.placeSource name).Leads t () u ↔
      (s.result? t name).isSome ∧ s.Fits t name ∧ u = s.put t t name := by
  have htarget := target_of_plain hstem
  have hne : s.landing t name ≠ s.confSources.place t.workDir ++ [name] := by
    intro heq
    exact hapart (List.append_inj' heq rfl).1.symm
  unfold placeSource
  simp only [hstem, leads_ofFiles, copyFile_eq_ok]
  constructor
  · rintro ⟨start, content, x, l, old, x', hfind, hw, rfl⟩
    obtain ⟨m, hm, rfl, hnode⟩ := (find_join_eq_ok_file hname).mp hfind
    obtain rfl := eq_place_of_way? hm
    rw [← htarget] at hw
    obtain ⟨hfits, rfl, -⟩ := (writable_target h hname).mp hw
    have hresult : s.result? t name = some (content, x) :=
      result?_eq_some.mpr ⟨content, hnode, placed?_of_plain hstem content⟩
    refine ⟨by simp [hresult], hfits, ?_⟩
    rw [put_of_result? hresult, landed, hstem, if_neg hne]
    rfl
  · rintro ⟨hresult, hfits, rfl⟩
    obtain ⟨⟨bytes, x⟩, hresult⟩ := Option.isSome_iff_exists.mp hresult
    obtain ⟨content, hnode, hplaced⟩ := result?_eq_some.mp hresult
    obtain rfl : content = bytes := by
      rw [placed?_of_plain hstem] at hplaced
      exact Option.some.inj hplaced
    have hfind := (find_join_eq_ok_file hname).mpr ⟨_, hway, rfl, hnode⟩
    obtain ⟨old, x', hw⟩ := hfits.exists_writable h hname
    rw [htarget] at hw
    refine ⟨_, content, x, _, old, x', hfind, hw, ?_⟩
    rw [put_of_result? hresult, landed, hstem, if_neg hne]
    rfl

theorem leads_placeSource
    (hapart : s.confSources.place t.workDir ≠ s.env.confDir.place t.workDir) :
    (s.placeSource name).Leads t () u ↔
      (s.result? t name).isSome ∧ s.Fits t name ∧ u = s.put t t name := by
  cases hstem : templateStem? name with
  | none => exact leads_placeSource_of_plain h hname hway hstem hapart
  | some stem => exact leads_placeSource_of_template h hname hway hstem

end Step

/-- What a run over the sources keeps of the tree it starts with. -/
structure Kept (s : ServerRoot) (t u : FileTree) : Prop where
  grown : u.Grown
  directories : SameDirectories t u
  sources : ∀ name, u.node? (s.confSources.place t.workDir ++ [name]) =
    t.node? (s.confSources.place t.workDir ++ [name])

namespace Kept

theorem refl (h : t.Grown) : s.Kept t t :=
  ⟨h, .refl t, fun _ => rfl⟩

theorem result?_eq (h : s.Kept t u) (name : String) : s.result? u name = s.result? t name := by
  unfold result?
  rw [← h.directories.workDir, h.sources]

theorem landing_eq (h : s.Kept t u) (name : String) : s.landing u name = s.landing t name := by
  unfold landing
  rw [← h.directories.workDir]

theorem put_eq (h : s.Kept t u) (name : String) : s.put u u name = s.put t u name := by
  unfold put
  rw [h.result?_eq, h.landing_eq]

theorem fits_iff (h : s.Kept t u) : s.Fits u name ↔ s.Fits t name := by
  have hfree : u.node? (s.landing u name) ≠ some .directory ↔
      t.node? (s.landing t name) ≠ some .directory := by
    rw [h.landing_eq]
    exact not_congr (h.directories.node? _).symm
  constructor
  · intro hfits
    refine ⟨hfits.isName, ?_, hfree.mp hfits.free⟩
    rw [← h.directories.way?_eq, h.directories.workDir]
    exact hfits.way
  · intro hfits
    refine ⟨hfits.isName, ?_, hfree.mpr hfits.free⟩
    rw [h.directories.way?_eq, ← h.directories.workDir]
    exact hfits.way

/-- A source in its place changes no source and no directory. -/
theorem put (h : s.Kept t u) (hfits : s.Fits t name)
    (hapart : s.confSources.place t.workDir ≠ s.env.confDir.place t.workDir) :
    s.Kept t (s.put t u name) := by
  have hparent : u.node? (s.env.confDir.place t.workDir) = some .directory := by
    rw [h.directories.workDir]
    exact node?_confDir (h.fits_iff.mpr hfits).way
  unfold ServerRoot.put
  cases hresult : s.result? t name with
  | none => exact h
  | some r =>
    have hfree : u.node? (s.landing t name) ≠ some .directory :=
      mt (h.directories.node? _).mpr hfits.free
    refine ⟨h.grown.set hparent hfits.isName (.inr hfree),
      h.directories.trans (sameDirectories_set_file hfree), fun name' => ?_⟩
    have hne : s.confSources.place t.workDir ++ [name'] ≠ s.landing t name := by
      intro heq
      exact hapart (List.append_inj' heq rfl).1
    exact (node?_set_of_ne hne).trans (h.sources name')

end Kept

theorem Kept.foldl (h : s.Kept t u) (hfits : ∀ name ∈ names, s.Fits t name)
    (hapart : s.confSources.place t.workDir ≠ s.env.confDir.place t.workDir) :
    s.Kept t (names.foldl (s.put t) u) := by
  induction names generalizing u with
  | nil => exact h
  | cons name names ih =>
    obtain ⟨hname, hnames⟩ := List.forall_mem_cons.mp hfits
    exact ih (h.put hname hapart) hnames

/-- The sources are put into their places one after the other, if each can be read and has room; no
source has a part in that of another. -/
theorem leads_placeSources (h : s.Kept t u) (hnames : ∀ name ∈ names, Path.IsName name)
    (hway : t.way? s.confSources = some (s.confSources.place t.workDir))
    (hapart : s.confSources.place t.workDir ≠ s.env.confDir.place t.workDir) :
    (s.placeSources names).Leads u () v ↔
      (∀ name ∈ names, (s.result? t name).isSome ∧ s.Fits t name) ∧
        v = names.foldl (s.put t) u := by
  unfold placeSources
  induction names generalizing u with
  | nil => simp
  | cons name names ih =>
    have hname := hnames name List.mem_cons_self
    have hrest : ∀ name ∈ names, Path.IsName name := fun n hn =>
      hnames n (List.mem_cons_of_mem _ hn)
    have hway' : u.way? s.confSources = some (s.confSources.place u.workDir) := by
      rw [h.directories.way?_eq, ← h.directories.workDir, hway]
    have hapart' : s.confSources.place u.workDir ≠ s.env.confDir.place u.workDir := by
      rwa [← h.directories.workDir]
    have hstep : ∀ w, (s.placeSource name).Leads u () w ↔
        (s.result? t name).isSome ∧ s.Fits t name ∧ w = s.put t u name := by
      intro w
      rw [leads_placeSource h.grown hname hway' hapart', h.result?_eq, h.fits_iff, h.put_eq]
    rw [leads_forM_cons, List.forall_mem_cons, List.foldl_cons]
    constructor
    · rintro ⟨w, hw, hv⟩
      obtain ⟨hresult, hfits, rfl⟩ := (hstep w).mp hw
      obtain ⟨hall, hv⟩ := (ih (h.put hfits hapart) hrest).mp hv
      exact ⟨⟨⟨hresult, hfits⟩, hall⟩, hv⟩
    · rintro ⟨⟨⟨hresult, hfits⟩, hall⟩, hv⟩
      exact ⟨s.put t u name, (hstep _).mpr ⟨hresult, hfits, rfl⟩,
        (ih (h.put hfits hapart) hrest).mpr ⟨hall, hv⟩⟩

/-- What is at the place of a source afterwards, from what was there before. -/
def after (s : ServerRoot) (t : FileTree) (old : Option FileNode) (name : String) :
    Option FileNode :=
  match s.result? t name with
  | some r => some (landed name r old)
  | none => old

theorem node?_put (l : Location) :
    (s.put t u name).node? l =
      if s.landing t name = l then s.after t (u.node? l) name else u.node? l := by
  have hne : s.landing t name ≠ [] := List.append_ne_nil_of_right_ne_nil _ (List.cons_ne_nil _ _)
  unfold put after
  cases s.result? t name with
  | none => simp
  | some r =>
    by_cases hl : s.landing t name = l
    · subst hl
      simp [node?_set_self hne]
    · simp [node?_set_of_ne (Ne.symm hl), hl]

/-- The sources whose place a location is. -/
def rivals (s : ServerRoot) (t : FileTree) (names : List String) (l : Location) : List String :=
  names.filter (s.landing t · = l)

/-- At a location only those sources count whose place it is. -/
theorem node?_foldl_put (l : Location) :
    (names.foldl (s.put t) u).node? l =
      (s.rivals t names l).foldl (s.after t) (u.node? l) := by
  unfold rivals
  induction names generalizing u with
  | nil => rfl
  | cons name names ih =>
    rw [List.foldl_cons, ih, node?_put]
    by_cases hl : s.landing t name = l
    · rw [if_pos hl, List.filter_cons_of_pos (by simpa using hl), List.foldl_cons]
    · rw [if_neg hl, List.filter_cons_of_neg (by simpa using hl)]

theorem mem_rivals {place : String} :
    name ∈ s.rivals t names (s.env.confDir.place t.workDir ++ [place]) ↔
      name ∈ names ∧ target name = place := by
  rw [rivals, List.mem_filter, decide_eq_true_eq, landing, List.append_cancel_left_eq,
    List.singleton_inj]

theorem rivals_eq_nil {l : Location}
    (hl : ∀ place, l ≠ s.env.confDir.place t.workDir ++ [place]) : s.rivals t names l = [] := by
  rw [rivals, List.filter_eq_nil_iff]
  intro name _ hland
  exact hl (target name) (of_decide_eq_true hland).symm

theorem isSome_foldl_after (old : Option FileNode) :
    (names.foldl (s.after t) old).isSome =
      (old.isSome || names.any fun name => (s.result? t name).isSome) := by
  induction names generalizing old with
  | nil => simp
  | cons name names ih =>
    rw [List.foldl_cons, ih, List.any_cons, ← Bool.or_assoc]
    unfold after
    cases s.result? t name <;> simp

theorem of_target_eq {place : String} (h : target name = place) :
    name = place ∧ templateStem? name = none ∨
      name = place ++ ".template" ∧ templateStem? name = some place := by
  cases hstem : templateStem? name with
  | none => exact .inl ⟨target_of_plain hstem ▸ h, rfl⟩
  | some stem =>
    obtain rfl : stem = place := target_of_template hstem ▸ h
    exact .inr ⟨(templateStem?_eq_some.mp hstem).1, rfl⟩

theorem templateStem?_append (h : name ≠ "") : templateStem? (name ++ ".template") = some name :=
  templateStem?_eq_some.mpr ⟨rfl, h⟩

/-- One place has two sources at most: a file of its name and a template for it. -/
theorem rivals_cases (hnodup : names.Nodup) (hnames : ∀ n ∈ names, Path.IsName n)
    {place : String} {l : Location} (hl : l = s.env.confDir.place t.workDir ++ [place]) :
    (s.rivals t names l).length ≤ 1 ∧
        ¬ (templateStem? place = none ∧ place ∈ names ∧ place ++ ".template" ∈ names) ∨
      (templateStem? place = none ∧ place ∈ names ∧ place ++ ".template" ∈ names) ∧
        (s.rivals t names l).Perm [place, place ++ ".template"] := by
  subst hl
  have hnodup' := hnodup.filter (s.landing t · = s.env.confDir.place t.workDir ++ [place])
  -- all but one name would have to be the other's
  have hone : ∀ n, (∀ m ∈ names, target m = place → m = n) →
      (s.rivals t names (s.env.confDir.place t.workDir ++ [place])).length ≤ 1 := by
    intro n hn
    have hsub : s.rivals t names (s.env.confDir.place t.workDir ++ [place]) ⊆ [n] := by
      intro m hm
      obtain ⟨hm, htarget⟩ := mem_rivals.mp hm
      exact List.mem_singleton.mpr (hn m hm htarget)
    exact (List.subperm_of_subset hnodup' hsub).length_le
  by_cases hplain : place ∈ names ∧ templateStem? place = none
  · by_cases htemplate : place ++ ".template" ∈ names
    · right
      obtain ⟨hplace, hstem⟩ := hplain
      have hstem' := templateStem?_append (hnames place hplace).ne_empty
      have hne : place ≠ place ++ ".template" := by
        intro he
        rw [← he, hstem] at hstem'
        cases hstem'
      refine ⟨⟨hstem, hplace, htemplate⟩, ?_⟩
      refine (List.perm_ext_iff_of_nodup hnodup' (by simpa using hne)).mpr fun n => ?_
      rw [← rivals, mem_rivals, List.mem_pair]
      constructor
      · rintro ⟨-, hn⟩
        exact (of_target_eq hn).imp And.left And.left
      · rintro (rfl | rfl)
        · exact ⟨hplace, target_of_plain hstem⟩
        · exact ⟨htemplate, target_of_template hstem'⟩
    · left
      refine ⟨hone place fun m hm hn => ?_, fun hboth => htemplate hboth.2.2⟩
      obtain ⟨rfl, -⟩ | ⟨rfl, -⟩ := of_target_eq hn
      · rfl
      · exact absurd hm htemplate
  · left
    refine ⟨hone (place ++ ".template") fun m hm hn => ?_, fun hboth => hplain ⟨hboth.2.1, hboth.1⟩⟩
    obtain ⟨rfl, hstem⟩ | ⟨rfl, -⟩ := of_target_eq hn
    · exact absurd ⟨hm, hstem⟩ hplain
    · rfl

theorem eq_of_perm_of_length_le_one {α : Type} {a b : List α} (h : a.Perm b) (ha : a.length ≤ 1) :
    a = b := by
  match a with
  | [] => exact (List.nil_perm.mp h).symm
  | [n] => exact List.singleton_perm.mp h
  | _ :: _ :: _ => simp at ha

/-- A file and a template for it are both listed, and are not the same in their place. -/
structure Contested (s : ServerRoot) (t : FileTree) (listed : List String) (name : String) :
    Prop where
  plain : templateStem? name = none
  file : name ∈ listed
  template : name ++ ".template" ∈ listed
  differ : (s.result? t name).map Prod.fst ≠ (s.result? t (name ++ ".template")).map Prod.fst

/-- The last that is listed of a file and a template for it is what is in the place of both. The
file tells whether it is executable. -/
theorem node?_of_both {c d : Bytes} {x x' : Bool} {l : Location}
    (hl : l = s.env.confDir.place t.workDir ++ [name]) (hstem : templateStem? name = none)
    (hne : name ≠ "") (hfile : s.result? t name = some (c, x))
    (htemplate : s.result? t (name ++ ".template") = some (d, x'))
    (hperm : (s.rivals t names l).Perm [name, name ++ ".template"]) :
    (names.foldl (s.put t) u).node? l =
      some (.file (if [name, name ++ ".template"].Sublist names then d else c) x) := by
  have hstem' := templateStem?_append hne
  have hland : s.landing t name = l := by
    rw [hl, landing, target_of_plain hstem]
  have hland' : s.landing t (name ++ ".template") = l := by
    rw [hl, landing, target_of_template hstem']
  have hsub : [name, name ++ ".template"].Sublist names ↔
      s.rivals t names l = [name, name ++ ".template"] := by
    constructor
    · intro hsub
      have hfilter := hsub.filter (s.landing t · = l)
      rw [List.filter_cons_of_pos (by simpa using hland),
        List.filter_cons_of_pos (by simpa using hland'), List.filter_nil] at hfilter
      exact (hfilter.eq_of_length hperm.length_eq.symm).symm
    · intro heq
      exact heq ▸ List.filter_sublist
  rw [node?_foldl_put]
  obtain heq | heq := List.perm_pair.mp hperm
  · rw [if_pos (hsub.mpr heq), heq]
    simp [after, hfile, htemplate, landed, hstem, hstem', FileNode.executable]
  · have hnot : ¬ [name, name ++ ".template"].Sublist names := by
      rw [hsub, heq]
      intro hpair
      have hname := (List.cons.inj hpair).1
      rw [hname, hstem] at hstem'
      cases hstem'
    rw [if_neg hnot, heq]
    simp [after, hfile, htemplate, landed, hstem]

theorem ite_ne_ite_iff {α : Type} {a b : α} {p q : Prop} [Decidable p] [Decidable q] :
    (if p then a else b) ≠ (if q then a else b) ↔ b ≠ a ∧ (p ↔ ¬ q) := by
  by_cases hp : p <;> by_cases hq : q <;> simp [hp, hq, eq_comm]

theorem leads_makeConf :
    s.makeConf.Leads t () u ↔
      if t.isDirectory s.confSources then
        ∃ names, fileNames t s.confSources = .ok names ∧ (s.placeSources names).Leads t () u
      else u = t := by
  unfold makeConf
  rw [leads_get_bind]
  by_cases hdir : t.isDirectory s.confSources = true
  · simp only [hdir, if_true, leads_bind, leads_ofRead]
    constructor
    · rintro ⟨names, _, ⟨hnames, rfl⟩, hrun⟩
      exact ⟨names, hnames, hrun⟩
    · rintro ⟨names, hnames, hrun⟩
      exact ⟨names, t, ⟨hnames, rfl⟩, hrun⟩
  · simp [hdir]

section Orders

variable {a b : List String} (h : t.Grown)
  (hlist : fileNames t s.confSources = .ok listed)
  (hapart : s.confSources.place t.workDir ≠ s.env.confDir.place t.workDir)

include h hlist

theorem isName_of_listed : ∀ name ∈ listed, Path.IsName name := by
  intro name hname
  obtain ⟨-, -, hmem⟩ := fileNames_eq_ok h hlist
  obtain ⟨content, x, hn⟩ := (hmem name).mp hname
  have hsome : t.node? (s.confSources.place t.workDir ++ [name]) ≠ none := by simp [hn]
  exact (h.parent hsome).1

/-- Two orders differ in the places where another of two contested sources is listed last. -/
theorem node?_foldl_put_ne_iff (ha : a.Perm listed) (hb : b.Perm listed)
    (hall : ∀ name ∈ listed, (s.result? t name).isSome ∧ s.Fits t name) (l : Location) :
    (a.foldl (s.put t) t).node? l ≠ (b.foldl (s.put t) t).node? l ↔ ∃ name,
      l = s.env.confDir.place t.workDir ++ [name] ∧ s.Contested t listed name ∧
        ([name, name ++ ".template"].Sublist a ↔ ¬ [name, name ++ ".template"].Sublist b) := by
  obtain ⟨-, hnodup, -⟩ := fileNames_eq_ok h hlist
  have hnames := isName_of_listed h hlist
  by_cases hl : ∃ place, l = s.env.confDir.place t.workDir ++ [place]
  · obtain ⟨place, hplace⟩ := hl
    have hunique : ∀ {name}, l = s.env.confDir.place t.workDir ++ [name] → name = place :=
      fun hname => List.singleton_inj.mp (List.append_cancel_left (hname.symm.trans hplace))
    have hrivalsa : (s.rivals t a l).Perm (s.rivals t listed l) := ha.filter _
    have hrivalsb : (s.rivals t b l).Perm (s.rivals t listed l) := hb.filter _
    obtain ⟨hone, hnot⟩ | ⟨⟨hstem, hfile, htemplate⟩, hpair⟩ := rivals_cases hnodup hnames hplace
    · have hsame := eq_of_perm_of_length_le_one (hrivalsa.trans hrivalsb.symm)
        (hrivalsa.length_eq ▸ hone)
      rw [node?_foldl_put, node?_foldl_put, hsame]
      refine ⟨fun hne => absurd rfl hne, ?_⟩
      rintro ⟨name, hname, hcontested, -⟩
      obtain rfl := hunique hname
      exact absurd ⟨hcontested.plain, hcontested.file, hcontested.template⟩ hnot
    · obtain ⟨⟨c, x⟩, hresult⟩ := Option.isSome_iff_exists.mp (hall place hfile).1
      obtain ⟨⟨d, x'⟩, hfilled⟩ := Option.isSome_iff_exists.mp (hall _ htemplate).1
      have hempty := (hnames place hfile).ne_empty
      rw [node?_of_both hplace hstem hempty hresult hfilled (hrivalsa.trans hpair),
        node?_of_both hplace hstem hempty hresult hfilled (hrivalsb.trans hpair), Ne,
        Option.some.injEq, FileNode.file.injEq, and_iff_left rfl, ← Ne, ite_ne_ite_iff]
      constructor
      · rintro ⟨hdiffer, horder⟩
        have hcontested : s.Contested t listed place :=
          ⟨hstem, hfile, htemplate, by simpa [hresult, hfilled] using hdiffer⟩
        exact ⟨place, hplace, hcontested, horder⟩
      · rintro ⟨name, hname, hcontested, horder⟩
        obtain rfl := hunique hname
        exact ⟨by simpa [hresult, hfilled] using hcontested.differ, horder⟩
  · have hnone : ∀ place, l ≠ s.env.confDir.place t.workDir ++ [place] :=
      fun place heq => hl ⟨place, heq⟩
    rw [node?_foldl_put, node?_foldl_put, rivals_eq_nil hnone, rivals_eq_nil hnone]
    refine ⟨fun hne => absurd rfl hne, ?_⟩
    rintro ⟨name, hname, -⟩
    exact absurd hname (hnone name)

include hapart

theorem leads_placeSources_of_perm (ha : a.Perm listed) :
    (s.placeSources a).Leads t () u ↔
      (∀ name ∈ listed, (s.result? t name).isSome ∧ s.Fits t name) ∧ u = a.foldl (s.put t) t := by
  obtain ⟨hway, -, -⟩ := fileNames_eq_ok h hlist
  have hnames : ∀ name ∈ a, Path.IsName name := fun name hname =>
    isName_of_listed h hlist name (ha.mem_iff.mp hname)
  rw [leads_placeSources (.refl h) hnames hway hapart]
  exact and_congr_left fun _ => forall_congr' fun name => by rw [ha.mem_iff]

/-- The order in which the sources are listed has no part in whether they can be put into their
places, nor in which files there are then. It has a part in what is in a place that a file and a
template for it both have. -/
theorem placeSources_perm (ha : a.Perm listed) (hb : b.Perm listed) :
    (∀ u, s.makeConf.Leads t () u ↔ (s.placeSources listed).Leads t () u) ∧
    ((∃ u, (s.placeSources a).Leads t () u) ↔ ∃ v, (s.placeSources b).Leads t () v) ∧
    ∀ u v, (s.placeSources a).Leads t () u → (s.placeSources b).Leads t () v →
      (∀ l, (u.node? l).isSome = (v.node? l).isSome) ∧
      ∀ l, u.node? l ≠ v.node? l ↔ ∃ name,
        l = s.env.confDir.place t.workDir ++ [name] ∧ s.Contested t listed name ∧
          ([name, name ++ ".template"].Sublist a ↔ ¬ [name, name ++ ".template"].Sublist b) := by
  have hruns : ∀ {c : List String}, c.Perm listed → ∀ u, (s.placeSources c).Leads t () u ↔
      (∀ name ∈ listed, (s.result? t name).isSome ∧ s.Fits t name) ∧ u = c.foldl (s.put t) t :=
    fun hc u => leads_placeSources_of_perm h hlist hapart hc
  refine ⟨fun u => ?_, ?_, ?_⟩
  · obtain ⟨hway, -, -⟩ := fileNames_eq_ok h hlist
    have hdir : t.isDirectory s.confSources = true :=
      (isDirectory_join_iff (by decide)).mpr ⟨_, hway⟩
    rw [leads_makeConf, if_pos hdir, hlist]
    constructor
    · rintro ⟨names, hnames, hrun⟩
      cases hnames
      exact hrun
    · intro hrun
      exact ⟨listed, rfl, hrun⟩
  · constructor
    · rintro ⟨u, hu⟩
      exact ⟨_, (hruns hb _).mpr ⟨((hruns ha u).mp hu).1, rfl⟩⟩
    · rintro ⟨v, hv⟩
      exact ⟨_, (hruns ha _).mpr ⟨((hruns hb v).mp hv).1, rfl⟩⟩
  · intro u v hu hv
    obtain ⟨hall, rfl⟩ := (hruns ha u).mp hu
    obtain ⟨-, rfl⟩ := (hruns hb v).mp hv
    refine ⟨fun l => ?_, node?_foldl_put_ne_iff h hlist ha hb hall⟩
    have hrivals : (s.rivals t a l).Perm (s.rivals t b l) := (ha.trans hb.symm).filter _
    rw [node?_foldl_put, node?_foldl_put, isSome_foldl_after, isSome_foldl_after,
      hrivals.any_eq]

end Orders

theorem fileNames_of_sorted {p : Path} {l : Location} (hfind : t.find p = .ok (l, .directory))
    (hsorted : (t.children l).Pairwise fun a b => decide (a.1 ≤ b.1) = true) :
    fileNames t p = .ok (((t.children l).filter fun e => !e.2.isDirectory).map (·.1)) := by
  simp only [fileNames, list_of_sorted hfind hsorted, bind, Except.bind, pure, Except.pure]

/-- Configuration sources, and an empty directory to put them into. -/
def sampleTree (sources : List (String × Bytes)) : FileTree :=
  ⟨[], [["w"], ["w", "test"], ["w", "test", "conf"], ["w", "test", "gen"],
    ["w", "test", "gen", "apache"], ["w", "test", "gen", "apache", "conf"]].map (·, .directory) ++
      sources.map fun e => (["w", "test", "conf", e.1], .file e.2 false)⟩

/-- Without a template for the other source, the order has no part in anything. -/
theorem placeSources_perm_uncontested :
    let s := ofEnvironment (.ofSettings {} "w" none none)
    let t := sampleTree [("a", [36, 36]), ("b.template", [36, 36])]
    fileNames t s.confSources = .ok ["a", "b.template"] ∧
      ∃ u v, (s.placeSources ["a", "b.template"]).Leads t () u ∧
        (s.placeSources ["b.template", "a"]).Leads t () v ∧ ∀ l, u.node? l = v.node? l := by
  intro s t
  have hlist : fileNames t s.confSources = .ok ["a", "b.template"] :=
    fileNames_of_sorted (l := ["w", "test", "conf"]) (by decide +kernel) (by decide +kernel)
  have hu : (s.placeSources ["a", "b.template"]).Leads t () _ := leads_of_run (by decide +kernel)
  have hv : (s.placeSources ["b.template", "a"]).Leads t () _ := leads_of_run (by decide +kernel)
  obtain ⟨-, -, hperm⟩ := placeSources_perm (s := s) (t := t) (by decide +kernel) hlist
    (by decide +kernel) (.refl _) (.swap "a" "b.template" [])
  refine ⟨hlist, _, _, hu, hv, fun l => ?_⟩
  by_contra hne
  obtain ⟨name, -, hcontested, -⟩ := ((hperm _ _ hu hv).2 l).mp hne
  have hnone : ∀ name ∈ ["a", "b.template"], name ++ ".template" ∈ ["a", "b.template"] →
      templateStem? name ≠ none := by decide +kernel
  exact hnone name hcontested.file hcontested.template hcontested.plain

/-- A file and a template for it: whatever is listed last is what the server gets. -/
theorem placeSources_last_wins :
    let s := ofEnvironment (.ofSettings {} "w" none none)
    let t := sampleTree [("b", [102]), ("b.template", [116])]
    fileNames t s.confSources = .ok ["b", "b.template"] ∧
      ∃ u v, (s.placeSources ["b", "b.template"]).Leads t () u ∧
        (s.placeSources ["b.template", "b"]).Leads t () v ∧
        u.read (s.env.confDir.join "b") = .ok [116] ∧
        v.read (s.env.confDir.join "b") = .ok [102] := by
  intro s t
  have hlist : fileNames t s.confSources = .ok ["b", "b.template"] :=
    fileNames_of_sorted (l := ["w", "test", "conf"]) (by decide +kernel) (by decide +kernel)
  exact ⟨hlist, _, _, leads_of_run (by decide +kernel), leads_of_run (by decide +kernel),
    by decide +kernel, by decide +kernel⟩

end WebTestbed.ServerRoot
