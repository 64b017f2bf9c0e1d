import WebTestbed.Proofs.ServerRoot.Fresh

/-! Documents: the server gets those of the sources, and the programs among them can be run. -/
namespace WebTestbed.ServerRoot
open FileTree Change

variable {s : ServerRoot} {t u v w : FileTree} {name : String} {l : Location} {source target : Path}

/-- Copies one file or directory. -/
def copyEntry (source target : Path) (e : Location × FileNode) : Change Unit :=
  if e.2.isDirectory then
    Change.ofFiles (·.makeDirectories (target.join ⟨Text.joinWith "/" e.1⟩))
  else
    Change.ofFiles (·.copyFile (source.join ⟨Text.joinWith "/" e.1⟩)
      (target.join ⟨Text.joinWith "/" e.1⟩))

theorem leads_copyTree :
    (copyTree source target).Leads t () v ↔ ∃ u l n, t.makeDirectories target = .ok u ∧
      u.find source = .ok (l, n) ∧ ((inOrder (u.below l)).forM (copyEntry source target)).Leads u () v := by
  unfold copyTree
  simp only [leads_bind, leads_ofFiles, leads_ofRead, leads_get]
  constructor
  · rintro ⟨_, u, hu, ⟨l, n⟩, _, ⟨hfind, rfl⟩, _, _, ⟨rfl, rfl⟩, hrun⟩
    exact ⟨_, l, n, hu, hfind, hrun⟩
  · rintro ⟨u, l, n, hu, hfind, hrun⟩
    exact ⟨(), u, hu, (l, n), u, ⟨hfind, rfl⟩, u, u, ⟨rfl, rfl⟩, hrun⟩

/-- A copy of what is in one directory into another is under way: what is there already is as in the
source, and the rest is listed. -/
structure Copying (t : FileTree) (source target : Path) (u : FileTree)
    (rest : List (Location × FileNode)) : Prop where
  grown : u.Grown
  workDir : u.workDir = t.workDir
  base : u.HasBase target
  way : u.way? target = some (target.place t.workDir)
  beside : ∀ l, ¬ target.place t.workDir <+: l → u.node? l = t.node? l
  same : ∀ r, u.node? (target.place t.workDir ++ r) = none ∨
    u.node? (target.place t.workDir ++ r) = t.node? (source.place t.workDir ++ r)
  rest : ∀ r n, t.node? (source.place t.workDir ++ r) = some n →
    (r, n) ∈ rest ∨ u.node? (target.place t.workDir ++ r) = some n

namespace Copying

variable {e : Location × FileNode} {rest : List (Location × FileNode)}

/-- An entry leaves the rest when it is as in the source, and others stay or become so. -/
theorem next (h : Copying t source target u (e :: rest)) (hgrown : v.Grown)
    (hwork : v.workDir = u.workDir) (hbase : v.HasBase target)
    (hway : v.way? target = some (target.place t.workDir))
    (hbeside : ∀ l, ¬ target.place t.workDir <+: l → v.node? l = u.node? l)
    (hnode : ∀ a, v.node? (target.place t.workDir ++ a) = t.node? (source.place t.workDir ++ a) ∨
      a ≠ e.1 ∧ v.node? (target.place t.workDir ++ a) = u.node? (target.place t.workDir ++ a)) :
    Copying t source target v rest := by
  refine ⟨hgrown, hwork.trans h.workDir, hbase, hway,
    fun l hl => (hbeside l hl).trans (h.beside l hl), fun a => ?_, fun a n hn => ?_⟩
  · obtain heq | ⟨-, heq⟩ := hnode a
    · exact .inr heq
    · rw [heq]
      exact h.same a
  · obtain heq | ⟨hne, heq⟩ := hnode a
    · exact .inr (heq.trans hn)
    · rw [heq]
      refine (h.rest a n hn).imp_left fun hmem => ?_
      obtain hhead | hmem := List.mem_cons.mp hmem
      · exact absurd (congrArg Prod.fst hhead) hne
      · exact hmem

section Entry

variable {r : Location} (ht : t.Grown)

include ht

theorem step_directory (h : Copying t source target u ((r, .directory) :: rest)) (hr : r ≠ [])
    (hn : t.node? (source.place t.workDir ++ r) = some .directory)
    (hv : u.makeDirectories (target.join ⟨Text.joinWith "/" r⟩) = .ok v) :
    Copying t source target v rest := by
  have hnames := ht.isName_of_append hn
  have htext := Path.text_join_ne_empty target (Path.joinWith_ne_empty hnames hr)
  obtain ⟨hgrown, hwork, hbase, hway, hmade, hsame⟩ :=
    node?_of_makeDirectories h.grown h.base (Path.Extends.joinWith hnames target) h.way htext hv
  refine h.next hgrown hwork hbase hway
    (fun l hl => hsame l fun a _ heq => hl (heq ▸ List.prefix_append _ a)) fun a => ?_
  by_cases ha : a <+: r
  · left
    rw [hmade a ha, ht.directory_above hn ha]
  · right
    exact ⟨fun heq => ha (heq ▸ List.prefix_rfl),
      hsame _ fun b hb heq => ha (List.append_cancel_left heq ▸ hb)⟩

theorem step_file {content : Bytes} {x : Bool}
    (h : Copying t source target u ((r, .file content x) :: rest))
    (hapart : Apart (target.place t.workDir) (source.place t.workDir))
    (hn : t.node? (source.place t.workDir ++ r) = some (.file content x))
    (hv : u.copyFile (source.join ⟨Text.joinWith "/" r⟩)
      (target.join ⟨Text.joinWith "/" r⟩) = .ok v) :
    Copying t source target v rest := by
  have hnames := ht.isName_of_append hn
  have htarget := Path.Extends.joinWith hnames target
  obtain ⟨start, content', x', l, old, x'', hfind, hw, rfl⟩ := copyFile_eq_ok.mp hv
  have hl := (writable_cases hw).1
  have hfree := node?_ne_directory_of_writable hw
  obtain ⟨hstart, hnode⟩ := locate_of_find hfind
  have hstart' := eq_place_of_locate hstart
  have hl' := eq_place_of_locate hl
  rw [h.workDir, (Path.Extends.joinWith hnames source).place_eq] at hstart'
  rw [h.workDir, htarget.place_eq] at hl'
  have hne : l ≠ start := by
    rw [hl', hstart']
    intro heq
    exact (hapart.append r).left (heq ▸ List.prefix_append _ _)
  rw [hstart', h.beside _ (hapart.append r).left, hn, Option.some.injEq,
    FileNode.file.injEq] at hnode
  obtain ⟨rfl, rfl⟩ := hnode
  rw [if_neg hne]
  have hdirs : SameDirectories u (u.set l (.file content x)) := sameDirectories_set_file hfree
  refine h.next (h.grown.set_of_locate (htarget.hasBase h.base) hl hfree _) rfl
    (hdirs.hasBase h.base) ?_ (fun l₀ hl₀ => ?_) fun a => ?_
  · rw [hdirs.way?_eq, h.way]
  · refine node?_set_of_ne fun heq => hl₀ ?_
    rw [heq, hl']
    exact List.prefix_append _ _
  · rw [hl']
    by_cases ha : a = r
    · left
      rw [ha, hn, node?_set_self (hl' ▸ ne_nil_of_node?_ne hfree)]
    · right
      exact ⟨ha, node?_set_of_ne fun heq => ha (List.append_cancel_left heq)⟩

end Entry

theorem step (h : Copying t source target u (e :: rest)) (ht : t.Grown)
    (hapart : Apart (target.place t.workDir) (source.place t.workDir))
    (he : e.1 ≠ []) (hn : t.node? (source.place t.workDir ++ e.1) = some e.2)
    (hv : (copyEntry source target e).Leads u () v) : Copying t source target v rest := by
  obtain ⟨r, n⟩ := e
  cases n with
  | directory => exact step_directory ht h he hn (leads_ofFiles.mp hv)
  | file content x => exact step_file ht h hapart hn (leads_ofFiles.mp hv)

theorem run (h : Copying t source target u rest) (ht : t.Grown)
    (hapart : Apart (target.place t.workDir) (source.place t.workDir))
    (hrest : ∀ e ∈ rest, e.1 ≠ [] ∧ t.node? (source.place t.workDir ++ e.1) = some e.2)
    (hv : (rest.forM (copyEntry source target)).Leads u () v) : Copying t source target v [] := by
  induction rest generalizing u with
  | nil =>
    rw [leads_forM_nil] at hv
    exact hv ▸ h
  | cons e rest ih =>
    obtain ⟨⟨he, hn⟩, hrest⟩ := List.forall_mem_cons.mp hrest
    obtain ⟨w, hw, hv⟩ := leads_forM_cons.mp hv
    exact ih (h.step ht hapart he hn hw) hrest hv

theorem node?_eq (h : Copying t source target u []) (r : Location) :
    u.node? (target.place t.workDir ++ r) = t.node? (source.place t.workDir ++ r) := by
  cases hn : t.node? (source.place t.workDir ++ r) with
  | none =>
    obtain hnone | heq := h.same r
    · exact hnone
    · rw [heq, hn]
  | some n =>
    obtain hmem | heq := h.rest r n hn
    · cases hmem
    · exact heq

end Copying

/-- An empty directory becomes a copy. -/
theorem copying_of_leads (h : u.Grown) (hbase : u.HasBase target) {n : FileNode}
    (hapart : Apart (target.place u.workDir) (source.place u.workDir))
    (hway : u.way? target = some (target.place u.workDir))
    (hempty : ∀ r, r ≠ [] → u.node? (target.place u.workDir ++ r) = none)
    (hsource : u.node? (source.place u.workDir) = some .directory)
    (hfind : u.find source = .ok (l, n))
    (hv : ((inOrder (u.below l)).forM (copyEntry source target)).Leads u () v) :
    Copying u source target v [] := by
  obtain rfl := eq_place_of_locate (locate_of_find hfind).1
  have hmem : ∀ e, e ∈ inOrder (u.below (source.place u.workDir)) ↔
      e.1 ≠ [] ∧ u.node? (source.place u.workDir ++ e.1) = some e.2 := by
    rintro ⟨r, n⟩
    rw [inOrder, List.mem_mergeSort, h.mem_below_iff]
  have htarget := (h.way?_eq_place hbase hway).2
  have hstart : Copying u source target u (inOrder (u.below (source.place u.workDir))) := by
    refine ⟨h, rfl, hbase, hway, fun _ _ => rfl, fun r => ?_, fun r n hn => ?_⟩
    · by_cases hr : r = []
      · right
        rw [hr, List.append_nil, List.append_nil, htarget, hsource]
      · exact .inl (hempty r hr)
    · by_cases hr : r = []
      · right
        rw [hr, List.append_nil] at hn ⊢
        rw [htarget, ← hsource, hn]
      · exact .inl ((hmem (r, n)).mpr ⟨hr, hn⟩)
  exact hstart.run h hapart (fun e he => (hmem e).mp he) hv

/-- The file, made executable. -/
def enabled : FileNode → FileNode
  | .file content _ => .file content true
  | .directory => .directory

theorem enabled_enabled (n : FileNode) : enabled (enabled n) = enabled n := by
  cases n <;> rfl

theorem node?_of_setExecutable {p : Path} (h : t.Grown) (hbase : t.HasBase p)
    (hu : t.setExecutable p true = .ok u) :
    u.Grown ∧ SameDirectories t u ∧
      u.node? (p.place t.workDir) = (t.node? (p.place t.workDir)).map enabled ∧
      ∀ l, l ≠ p.place t.workDir → u.node? l = t.node? l := by
  obtain ⟨l, content, x, hfind, rfl⟩ | ⟨⟨l, hfind⟩, rfl⟩ := setExecutable_eq_ok.mp hu
  · obtain ⟨hl, hn⟩ := locate_of_find hfind
    have hfree : t.node? l ≠ some .directory := by simp [hn]
    have hplace := eq_place_of_locate hl
    rw [← hplace]
    refine ⟨h.set_of_locate hbase hl hfree _, sameDirectories_set_file hfree, ?_,
      fun _ hl' => node?_set_of_ne hl'⟩
    rw [node?_set_self (ne_nil_of_node?_ne hfree), hn]
    rfl
  · obtain ⟨hl, hn⟩ := locate_of_find hfind
    rw [eq_place_of_locate hl] at hn
    refine ⟨h, .refl u, ?_, fun _ _ => rfl⟩
    rw [hn]
    rfl

theorem node?_of_forM_setExecutable {dir : Path} {names : List String} (h : t.Grown)
    (hbase : t.HasBase dir) (hnames : ∀ name ∈ names, Path.IsName name)
    (hv : (names.forM fun name => ofFiles (·.setExecutable (dir.join name) true)).Leads t () v) :
    v.Grown ∧ SameDirectories t v ∧
      (∀ name ∈ names, v.node? (dir.place t.workDir ++ [name]) =
        (t.node? (dir.place t.workDir ++ [name])).map enabled) ∧
      ∀ l, (∀ name ∈ names, l ≠ dir.place t.workDir ++ [name]) → v.node? l = t.node? l := by
  induction names generalizing t with
  | nil =>
    rw [leads_forM_nil] at hv
    subst hv
    exact ⟨h, .refl v, by simp, fun _ _ => rfl⟩
  | cons name names ih =>
    obtain ⟨hname, hnames⟩ := List.forall_mem_cons.mp hnames
    obtain ⟨u, hu, hv⟩ := leads_forM_cons.mp hv
    rw [leads_ofFiles] at hu
    obtain ⟨hgrown, hdirs, hself, hne⟩ :=
      node?_of_setExecutable h ((Path.Extends.join hname dir).hasBase hbase) hu
    obtain ⟨hgrown', hdirs', hself', hne'⟩ := ih hgrown (hdirs.hasBase hbase) hnames hv
    rw [Path.place_join _ _ hname] at hself hne
    rw [← hdirs.workDir] at hself' hne'
    -- once executable, a file stays so
    have hmap : ∀ name' ∈ name :: names, v.node? (dir.place t.workDir ++ [name']) =
        (t.node? (dir.place t.workDir ++ [name'])).map enabled := by
      intro name' hmem
      by_cases hin : name' ∈ names
      · rw [hself' name' hin]
        by_cases he : name' = name
        · rw [he, hself, Option.map_map, funext (f := enabled ∘ enabled) enabled_enabled]
        · rw [hne _ (by simpa using he)]
      · obtain rfl : name' = name := (List.mem_cons.mp hmem).resolve_right hin
        have hother : ∀ n ∈ names, dir.place t.workDir ++ [name'] ≠ dir.place t.workDir ++ [n] :=
          fun n hn heq => hin (List.singleton_inj.mp (List.append_cancel_left heq) ▸ hn)
        rw [hne' _ hother, hself]
    refine ⟨hgrown', hdirs.trans hdirs', hmap, fun l hl => ?_⟩
    obtain ⟨hl, hrest⟩ := List.forall_mem_cons.mp hl
    rw [hne' l hrest, hne l hl]

theorem isProgram_iff :
    isProgram name = true ↔ ∃ stem, stem ≠ "" ∧ name = stem ++ ".py" := by
  have hname : ∀ stem : String, name = stem ++ ".py" ↔
      name.toList.reverse = ['y', 'p'] ++ '.' :: stem.toList.reverse := by
    intro stem
    rw [← String.toList_inj, String.toList_append, ← List.reverse_inj, List.reverse_append]
    rfl
  unfold isProgram Path.extension?
  rw [decide_eq_true_eq]
  constructor
  · intro h
    cases hcut : Text.cut '.' name.toList.reverse with
    | none => simp [hcut] at h
    | some r =>
      obtain ⟨after, before⟩ := r
      simp only [hcut, Option.ite_none_left_eq_some, Option.some.injEq] at h
      obtain ⟨hbefore, hpy⟩ := h
      have hafter : after = ['y', 'p'] := by
        rw [← List.reverse_inj, ← String.ofList_inj, hpy]
        rfl
      refine ⟨String.ofList before.reverse, ?_, ?_⟩
      · rw [Ne, String.ofList_eq_empty_iff, List.reverse_eq_nil_iff]
        simpa using hbefore
      · rw [hname, (Text.cut_eq_some hcut).1, hafter, String.toList_ofList, List.reverse_reverse]
  · rintro ⟨stem, hstem, hpy⟩
    rw [(hname stem).mp hpy, Text.cut_append (by decide)]
    have hne : stem.toList ≠ [] := mt String.toList_eq_nil_iff.mp hstem
    simp [hne]

theorem mem_filter_isProgram {p : Path} {r : List (String × FileNode)} (h : t.Grown)
    (hlist : t.list p = .ok r) :
    name ∈ (r.map Prod.fst).filter isProgram ↔
      t.node? (p.place t.workDir ++ [name]) ≠ none ∧ isProgram name = true := by
  obtain ⟨-, -, hmem⟩ := h.list_eq_ok hlist
  rw [List.mem_filter, List.mem_map, Option.ne_none_iff_exists']
  refine and_congr_left fun _ => ?_
  constructor
  · rintro ⟨⟨name, n⟩, hn, rfl⟩
    exact ⟨n, (hmem name n).mp hn⟩
  · rintro ⟨n, hn⟩
    exact ⟨(name, n), (hmem name n).mpr hn, rfl⟩

/-- The programs directly in a directory can be run, and nothing else changes. -/
theorem of_leads_enablePrograms {p : Path} (h : t.Grown) (hbase : t.HasBase p)
    (hname : Path.IsName name) (hway : t.way? p = some (p.place t.workDir))
    (hv : (enablePrograms (p.join name)).Leads t () v) :
    v.Grown ∧ SameDirectories t v ∧
      (∀ file, isProgram file = true → v.node? (p.place t.workDir ++ [name, file]) =
        (t.node? (p.place t.workDir ++ [name, file])).map enabled) ∧
      ∀ l, (∀ file, isProgram file = true → l ≠ p.place t.workDir ++ [name, file]) →
        v.node? l = t.node? l := by
  have hplace : ∀ file, (p.join name).place t.workDir ++ [file] =
      p.place t.workDir ++ [name, file] := by
    intro file
    rw [Path.place_join _ _ hname, List.append_assoc, List.singleton_append]
  unfold enablePrograms at hv
  rw [leads_get_bind] at hv
  by_cases hdir : t.isDirectory (p.join name) = true
  · simp only [hdir, if_true, leads_bind, leads_ofRead] at hv
    obtain ⟨r, u, ⟨hlist, hu⟩, hv⟩ := hv
    rw [hu] at hv
    have hfile : ∀ file, file ∈ (r.map Prod.fst).filter isProgram ↔
        t.node? (p.place t.workDir ++ [name, file]) ≠ none ∧ isProgram file = true := by
      intro file
      rw [mem_filter_isProgram h hlist, hplace]
    have hnames : ∀ file ∈ (r.map Prod.fst).filter isProgram, Path.IsName file := by
      intro file hf
      exact h.isName ((hfile file).mp hf).1 file (by simp)
    obtain ⟨hgrown, hdirs, hself, hne⟩ :=
      node?_of_forM_setExecutable h ((Path.Extends.join hname p).hasBase hbase) hnames hv
    simp only [hplace] at hself hne
    refine ⟨hgrown, hdirs, fun file hprogram => ?_, fun l hl => ?_⟩
    · by_cases hn : t.node? (p.place t.workDir ++ [name, file]) = none
      · rw [hne, hn]
        · rfl
        · intro file' hf heq
          exact ((hfile file').mp hf).1 (heq ▸ hn)
      · exact hself file ((hfile file).mpr ⟨hn, hprogram⟩)
    · exact hne l fun file hf => hl file ((hfile file).mp hf).2
  · simp only [hdir, Bool.false_eq_true, if_false, leads_pure] at hv
    obtain ⟨-, rfl⟩ := hv
    refine ⟨h, .refl v, fun file _ => ?_, fun _ _ => rfl⟩
    have hnone : v.node? (p.place v.workDir ++ [name, file]) = none := by
      by_contra hsome
      have hparent : v.node? (p.place v.workDir ++ [name]) = some .directory :=
        h.node?_of_append (List.cons_ne_nil file []) (by simpa using hsome)
      exact hdir ((isDirectory_join_iff hname).mpr
        ⟨_, (way?_join_eq_some hname).mpr ⟨_, hway, rfl, hparent⟩⟩)
    rw [hnone]
    rfl

/-- What the sources have for the documents of the server: without sources, an empty directory. -/
def document? (s : ServerRoot) (u : FileTree) (r : Location) : Option FileNode :=
  if u.isDirectory s.docsSources then u.node? (s.docsSources.place u.workDir ++ r)
  else if r = [] then some .directory else none

theorem of_leads_makeDocs (h : s.makeDocs.Leads t () v) :
    ∃ u, (if t.isDirectory s.docsSources then
        (copyTree s.docsSources s.env.docsDir).Leads t () u
      else t.makeDirectories s.env.docsDir = .ok u) ∧
      (enablePrograms (s.env.docsDir.join "cgi")).Leads u () v := by
  unfold makeDocs at h
  rw [leads_get_bind] at h
  by_cases hdir : t.isDirectory s.docsSources = true
  · simp only [hdir, if_true, leads_bind] at h ⊢
    obtain ⟨_, u, hu, hv⟩ := h
    exact ⟨u, hu, hv⟩
  · simp only [hdir, Bool.false_eq_true, if_false, leads_bind, leads_ofFiles] at h ⊢
    obtain ⟨_, u, hu, hv⟩ := h
    exact ⟨u, hu, hv⟩

theorem not_furnishing_documents (r : Location) : ¬ s.Furnishing u ("apache" :: "htdocs" :: r) := by
  generalize hl : "apache" :: "htdocs" :: r = l
  intro h
  cases h with
  | directory h => exact not_remade_documents r (hl ▸ h)
  | modules => simp at hl
  | source => simp at hl

theorem Renewable.docsDir (h : s.Renewable t) :
    s.env.genDir.Extends s.env.docsDir ["apache", "htdocs"] :=
  h.extends (by decide)

theorem Renewable.place_docsDir (h : s.Renewable t) (hwork : u.workDir = t.workDir) :
    s.env.docsDir.place u.workDir = s.generated t ++ ["apache", "htdocs"] :=
  h.place_join (by decide) hwork

theorem Renewable.place_docsDir_append (h : s.Renewable t) (hwork : u.workDir = t.workDir)
    (r : Location) :
    s.env.docsDir.place u.workDir ++ r = s.generated t ++ "apache" :: "htdocs" :: r := by
  rw [h.place_docsDir hwork, List.append_assoc]
  rfl

theorem Furnished.node?_server (h : s.Furnished t w) {a : Location} (ha : a <+: ["apache"]) :
    w.node? (s.generated t ++ a) = some .directory := by
  have hconf : w.node? (s.generated t ++ ["apache", "conf"]) ≠ none :=
    (h.inside _).mpr (.directory (.inr List.prefix_rfl))
  have hserver : w.node? (s.generated t ++ ["apache"]) = some .directory :=
    h.grown.node?_of_append (List.cons_ne_nil "conf" []) (by simpa using hconf)
  exact h.grown.directory_above hserver ha

/-- The directory of the documents holds what it should, and the rest is as it was. -/
structure Holding (s : ServerRoot) (t w v : FileTree) (docs : Location → Option FileNode) :
    Prop where
  grown : v.Grown
  workDir : v.workDir = t.workDir
  base : v.HasBase s.env.docsDir
  way : v.way? s.env.docsDir = some (s.generated t ++ ["apache", "htdocs"])
  inside : ∀ r, v.node? (s.generated t ++ "apache" :: "htdocs" :: r) = docs r
  beside : ∀ l, (∀ r, l ≠ s.generated t ++ "apache" :: "htdocs" :: r) → v.node? l = w.node? l

/-- The directory of the documents is made, with nothing in it. -/
theorem Furnished.docsDir (h : s.Furnished t w) (hr : s.Renewable t)
    (hu : w.makeDirectories s.env.docsDir = .ok u) :
    s.Holding t w u fun r => if r = [] then some .directory else none := by
  have hext := hr.docsDir
  obtain ⟨hgrown, hwork, hbase, hway, hdir, hsame⟩ := node?_of_makeDirectories h.grown
    (h.base hr.lasting) hext h.way (Path.text_join_ne_empty _ (by decide)) hu
  have htop := hdir _ List.prefix_rfl
  refine ⟨hgrown, hwork.trans h.workDir, hext.hasBase hbase,
    (hgrown.way?_extends hbase hext hway).mpr ⟨rfl, htop⟩, fun r => ?_, fun l hl => ?_⟩
  · by_cases hr' : r = []
    · rw [hr', if_pos rfl, htop]
    · have hnone : w.node? (s.generated t ++ "apache" :: "htdocs" :: r) = none := by
        by_contra hsome
        exact not_furnishing_documents r ((h.inside _).mp hsome)
      rw [if_neg hr', hsame, hnone]
      intro a ha heq
      have hlength := ha.length_le
      rw [← List.append_cancel_left heq] at hlength
      exact hr' (List.length_eq_zero_iff.mp (by simpa using hlength))
  · by_cases hplace : ∃ a, a <+: ["apache", "htdocs"] ∧ l = s.generated t ++ a
    · obtain ⟨a, ha, rfl⟩ := hplace
      have ha' : a <+: ["apache"] ++ ["htdocs"] := ha
      obtain rfl | hserver := List.prefix_concat_iff.mp ha'
      · exact absurd rfl (hl [])
      · rw [hdir a ha, h.node?_server hserver]
    · exact hsame l fun a ha heq => hplace ⟨a, ha, heq⟩

/-- The documents are made where nothing was, and nothing else changes. -/
theorem Furnished.documents (h : s.Furnished t w) (hr : s.Renewable t)
    (hdocs : s.Independent t s.docsSources)
    (hv : if w.isDirectory s.docsSources then
        (copyTree s.docsSources s.env.docsDir).Leads w () v
      else w.makeDirectories s.env.docsDir = .ok v) :
    s.Holding t w v (s.document? w) := by
  split at hv
  · next hdir =>
    obtain ⟨u, l, n, hu, hfind, hrun⟩ := leads_copyTree.mp hv
    have hempty := h.docsDir hr hu
    have hwork := hempty.workDir
    have hplace := hr.place_docsDir hwork
    have happend := hr.place_docsDir_append hwork
    have hbeside : ∀ r, u.node? (s.docsSources.place u.workDir ++ r) =
        w.node? (s.docsSources.place u.workDir ++ r) := by
      intro r
      refine hempty.beside _ fun r' heq => ?_
      rw [hwork] at heq
      exact (hdocs.apart.append r).left (heq ▸ List.prefix_append _ _)
    have hsource : u.node? (s.docsSources.place u.workDir) = some .directory := by
      obtain ⟨-, m, hm, hnode⟩ := isDirectory_iff.mp hdir
      have hself := hbeside []
      rw [List.append_nil, hwork, ← h.workDir, ← eq_place_of_way? hm] at hself
      rw [hwork, ← h.workDir, ← eq_place_of_way? hm, hself, hnode]
    have hapart : Apart (s.env.docsDir.place u.workDir) (s.docsSources.place u.workDir) := by
      rw [hplace, hwork]
      exact (hdocs.apart.symm.append _).symm
    have hcopy := copying_of_leads hempty.grown hempty.base hapart (hplace ▸ hempty.way)
      (fun r hr' => by rw [happend, hempty.inside, if_neg hr']) hsource hfind hrun
    refine ⟨hcopy.grown, hcopy.workDir.trans hwork, hcopy.base, hplace ▸ hcopy.way, fun r => ?_,
      fun l hl => ?_⟩
    · rw [document?, if_pos hdir, ← happend, hcopy.node?_eq, hbeside, hwork, h.workDir]
    · rw [hcopy.beside l, hempty.beside l hl]
      rintro ⟨r, rfl⟩
      exact hl r (happend r)
  · next hdir =>
    have hempty := h.docsDir hr hv
    refine ⟨hempty.grown, hempty.workDir, hempty.base, hempty.way, fun r => ?_, hempty.beside⟩
    rw [hempty.inside, document?, if_neg hdir]

theorem furnishing_iff_of_beside (hconf : s.Independent t s.confSources)
    (h : Beside (s.generated t) u v) (hwork : u.workDir = t.workDir) (hu : u.Grown) (hv : v.Grown)
    (hbase : u.HasBase s.confSources) (r : Location) : s.Furnishing v r ↔ s.Furnishing u r := by
  by_cases hr : ∃ name, r = ["apache", "conf", name]
  · obtain ⟨name, rfl⟩ := hr
    simp only [furnishing_conf_iff, hconf.isDirectory_eq h hwork hu hv hbase,
      hconf.node?_eq h hwork]
  · have hne : ∀ name, r ≠ ["apache", "conf", name] := fun name heq => hr ⟨name, heq⟩
    rw [furnishing_iff_of_ne hne, furnishing_iff_of_ne hne]

theorem document?_of_beside (hdocs : s.Independent t s.docsSources)
    (h : Beside (s.generated t) u v) (hwork : u.workDir = t.workDir) (hu : u.Grown) (hv : v.Grown)
    (hbase : u.HasBase s.docsSources) (r : Location) : s.document? v r = s.document? u r := by
  unfold document?
  rw [hdocs.isDirectory_eq h hwork hu hv hbase, hdocs.node?_eq h hwork]

/-- What a run makes in the generated directory. -/
inductive Produced (s : ServerRoot) (u : FileTree) : Location → Prop where
  | furnishing {r : Location} (h : s.Furnishing u r) : Produced s u r
  | document {r : Location} (h : s.document? u r ≠ none) : Produced s u ("apache" :: "htdocs" :: r)

theorem of_leads_make (h : s.make.Leads t () u) : ∃ v w x,
    s.makeDirs.Leads t () v ∧ s.makeConf.Leads v () w ∧
      (s.writeModules s.moduleNames).Leads w () x ∧ s.makeDocs.Leads x () u := by
  unfold make at h
  simp only [leads_bind] at h
  obtain ⟨_, v, hv, _, w, hw, _, x, hx, hu⟩ := h
  exact ⟨v, w, x, hv, hw, hx, hu⟩

theorem map_enabled_eq_file {n : Option FileNode} {content : Bytes} {x : Bool} :
    n.map enabled = some (.file content x) ↔ x = true ∧ ∃ x₀, n = some (.file content x₀) := by
  cases n with
  | none => simp
  | some n =>
    cases n <;> simp [enabled, eq_comm, and_comm]

/-- The last two steps of a run, as seen from the generated directory. -/
structure Documented (s : ServerRoot) (t x u : FileTree) : Prop where
  grown : u.Grown
  beside : Beside (s.generated t) x u
  program : ∀ file, isProgram file = true →
    u.node? (s.generated t ++ ["apache", "htdocs", "cgi", file]) =
      (s.document? u ["cgi", file]).map enabled
  document : ∀ r, (∀ file, isProgram file = true → r ≠ ["cgi", file]) →
    u.node? (s.generated t ++ "apache" :: "htdocs" :: r) = s.document? u r
  node? : ∀ l, (∀ r, l ≠ s.generated t ++ "apache" :: "htdocs" :: r) → u.node? l = x.node? l

theorem Furnished.documented (h : s.Furnished t w) (hr : s.Renewable t)
    (hdocs : s.Independent t s.docsSources) (hu : s.makeDocs.Leads w () u) :
    s.Documented t w u := by
  obtain ⟨v, hv, hu⟩ := of_leads_makeDocs hu
  have hcopied := h.documents hr hdocs hv
  have hplace := hr.place_docsDir hcopied.workDir
  obtain ⟨hgrown, hdirs, hprogram, hother⟩ :=
    of_leads_enablePrograms hcopied.grown hcopied.base (by decide) (hplace ▸ hcopied.way) hu
  simp only [hplace, List.append_assoc, List.cons_append, List.nil_append] at hprogram hother
  have hnode : ∀ l, (∀ r, l ≠ s.generated t ++ "apache" :: "htdocs" :: r) →
      u.node? l = w.node? l := by
    intro l hl
    rw [hother l fun file _ => hl ["cgi", file], hcopied.beside l hl]
  have hbeside : Beside (s.generated t) w u := by
    refine ⟨hdirs.workDir.symm.trans (hcopied.workDir.trans h.workDir.symm), fun l hl => ?_⟩
    exact hnode l fun r heq => not_remade_documents r (hl _ heq)
  have hdocument := document?_of_beside hdocs hbeside h.workDir h.grown hgrown
    (h.base hdocs.lasting)
  refine ⟨hgrown, hbeside, fun file hfile => ?_, fun r hr' => ?_, hnode⟩
  · rw [hprogram file hfile, hcopied.inside, hdocument]
  · rw [hother _ fun file hfile heq => hr' file hfile (by simpa using heq), hcopied.inside,
      hdocument]

theorem Documented.node?_eq_directory (h : s.Documented t w u) (r : Location) :
    u.node? (s.generated t ++ "apache" :: "htdocs" :: r) = some .directory ↔
      s.document? u r = some .directory := by
  by_cases hr : ∃ file, isProgram file = true ∧ r = ["cgi", file]
  · obtain ⟨file, hfile, rfl⟩ := hr
    rw [h.program file hfile]
    cases s.document? u ["cgi", file] with
    | none => simp
    | some n => cases n <;> simp [enabled]
  · rw [h.document r fun file hfile heq => hr ⟨file, hfile, heq⟩]

theorem Documented.node?_eq_file (h : s.Documented t w u) (r : Location) (content : Bytes)
    (x : Bool) :
    u.node? (s.generated t ++ "apache" :: "htdocs" :: r) = some (.file content x) ↔
      ∃ x₀, s.document? u r = some (.file content x₀) ∧
        (x = true ↔ x₀ = true ∨ ∃ stem, stem ≠ "" ∧ r = ["cgi", stem ++ ".py"]) := by
  by_cases hr : ∃ file, isProgram file = true ∧ r = ["cgi", file]
  · obtain ⟨file, hfile, rfl⟩ := hr
    obtain ⟨stem, hstem, rfl⟩ := isProgram_iff.mp hfile
    have hprogram : ∃ s, s ≠ "" ∧ ["cgi", stem ++ ".py"] = ["cgi", s ++ ".py"] := ⟨stem, hstem, rfl⟩
    rw [h.program _ hfile, map_enabled_eq_file]
    simp only [hprogram, or_true, iff_true]
    constructor
    · rintro ⟨hx, x₀, hn⟩
      exact ⟨x₀, hn, hx⟩
    · rintro ⟨x₀, hn, hx⟩
      exact ⟨hx, x₀, hn⟩
  · have hno : ¬ ∃ stem, stem ≠ "" ∧ r = ["cgi", stem ++ ".py"] := by
      rintro ⟨stem, hstem, rfl⟩
      exact hr ⟨_, isProgram_iff.mpr ⟨stem, hstem, rfl⟩, rfl⟩
    rw [h.document r fun file hfile heq => hr ⟨file, hfile, heq⟩]
    simp only [hno, or_false, ← Bool.eq_iff_iff]
    constructor
    · intro hn
      exact ⟨x, hn, rfl⟩
    · rintro ⟨x₀, hn, rfl⟩
      exact hn

theorem Documented.produced_iff (h : s.Documented t w u) (hw : s.Furnished t w)
    (hconf : s.Independent t s.confSources) (r : Location) :
    u.node? (s.generated t ++ r) ≠ none ↔ s.Produced u r := by
  by_cases hr : ∃ r', r = "apache" :: "htdocs" :: r'
  · obtain ⟨r, rfl⟩ := hr
    have hnode : u.node? (s.generated t ++ "apache" :: "htdocs" :: r) = none ↔
        s.document? u r = none := by
      by_cases hprogram : ∃ file, isProgram file = true ∧ r = ["cgi", file]
      · obtain ⟨file, hfile, rfl⟩ := hprogram
        rw [h.program file hfile, Option.map_eq_none_iff]
      · rw [h.document r fun file hfile heq => hprogram ⟨file, hfile, heq⟩]
    rw [Ne, hnode]
    constructor
    · exact .document
    · intro hproduced
      cases hproduced with
      | furnishing hf => exact absurd hf (not_furnishing_documents r)
      | document hd => exact hd
  · have hsame : u.node? (s.generated t ++ r) = w.node? (s.generated t ++ r) :=
      h.node? _ fun r' heq => hr ⟨r', List.append_cancel_left heq⟩
    rw [hsame, hw.inside, ← furnishing_iff_of_beside hconf h.beside hw.workDir hw.grown h.grown
      (hw.base hconf.lasting)]
    constructor
    · exact .furnishing
    · intro hproduced
      cases hproduced with
      | furnishing hf => exact hf
      | document hd => exact absurd ⟨_, rfl⟩ hr

/-- The documents of the server are those of the sources, with the same content. Those that can be
run are those that could be before, and the programs directly in `cgi`. The generated directory holds
what the run makes and nothing else, and outside of it only the way to it is made. -/
theorem documents_of_make (hr : s.Renewable t) (hconf : s.Independent t s.confSources)
    (hdocs : s.Independent t s.docsSources) (hu : s.make.Leads t () u) :
    let docs := s.env.docsDir.place t.workDir
    (∀ r, u.node? (docs ++ r) = some .directory ↔ s.document? u r = some .directory) ∧
    (∀ r content x, u.node? (docs ++ r) = some (.file content x) ↔
      ∃ x₀, s.document? u r = some (.file content x₀) ∧
        (x = true ↔ x₀ = true ∨ ∃ stem, stem ≠ "" ∧ r = ["cgi", stem ++ ".py"])) ∧
    (∀ r, u.node? (s.generated t ++ r) ≠ none ↔ s.Produced u r) ∧
    u.workDir = t.workDir ∧
    (∀ l, ¬ s.generated t <+: l → Paved s.env.genDir t u l) ∧
    ∀ p, s.Independent t p → t.isDirectory p = true → u.isDirectory p = true := by
  obtain ⟨v, w, x, hv, hw, hx, hu⟩ := of_leads_make hu
  have hfresh := hr.fresh hv
  have hfurnished := hfresh.furnished hr hconf (hfresh.configured hr hconf hw hx)
  have hdocumented := hfurnished.documented hr hdocs hu
  simp only [hr.place_docsDir_append rfl]
  refine ⟨hdocumented.node?_eq_directory, hdocumented.node?_eq_file,
    hdocumented.produced_iff hfurnished hconf,
    hdocumented.beside.workDir.trans hfurnished.workDir, fun l hl => ?_, fun p hp hdir => ?_⟩
  · exact (hfurnished.beside l hl).congr_right (hdocumented.beside.node?_of_not_prefixed hl)
  · rw [hp.isDirectory_eq hdocumented.beside hfurnished.workDir hfurnished.grown hdocumented.grown
      (hfurnished.base hp.lasting)]
    exact hfurnished.sources p hp hdir

/-- A set-up that needs no modules but those that are built in. -/
def sampleSetup (genDir : String) (sources : Path) : ServerRoot :=
  ⟨.ofSettings { test := { genDir := genDir }, server := { staticModules := "mpm_event ssl" } } "w"
    none none, sources, []⟩

/-- A program among the documents, and what an earlier run left. -/
def sampleLeftovers : FileTree :=
  ⟨[], [["w"], ["w", "src"], ["w", "src", "htdocs"], ["w", "src", "htdocs", "cgi"], ["w", "gen"],
    ["w", "gen", "apache"], ["w", "gen", "apache", "htdocs"]].map (·, .directory) ++
      [(["w", "src", "htdocs", "cgi", "hello.py"], .file [112] false),
        (["w", "gen", "apache", "htdocs", "old.html"], .file [111] false)]⟩

/-- A path may lead through the generated directory, and through what every run makes there. -/
example :
    let s := sampleSetup "gen/../gen" "w/gen/apache/conf/../../../src"
    s.Renewable sampleLeftovers ∧ s.Independent sampleLeftovers s.confSources ∧
      s.Independent sampleLeftovers s.docsSources :=
  ⟨⟨by decide +kernel, rfl, rfl, by decide +kernel, by decide +kernel, by decide +kernel⟩,
    ⟨by decide +kernel, by decide +kernel⟩, ⟨by decide +kernel, by decide +kernel⟩⟩

theorem leads_sampleSetup : ∃ u, (sampleSetup "gen" "w/src").make.Leads sampleLeftovers () u := by
  let s := sampleSetup "gen" "w/src"
  let dir := s.env.docsDir.join "cgi"
  let first : Change Unit := do s.makeDirs; s.makeConf; s.writeModules s.moduleNames
  let x := (first.run.run sampleLeftovers).2
  let y := ((ofFiles (·.makeDirectories s.env.docsDir)).run.run x).2
  let copy := (y.below ["w", "src", "htdocs"]).forM (copyEntry s.docsSources s.env.docsDir)
  let z := (copy.run.run y).2
  let programs := ["hello.py"].forM fun name => ofFiles (·.setExecutable (dir.join name) true)
  have hx : first.Leads sampleLeftovers () x := leads_of_run (by decide +kernel)
  have hy : (ofFiles (·.makeDirectories s.env.docsDir)).Leads x () y :=
    leads_of_run (by decide +kernel)
  have hcopy : (copyTree s.docsSources s.env.docsDir).Leads x () z := by
    have hfind : y.find s.docsSources = .ok (["w", "src", "htdocs"], .directory) := by
      decide +kernel
    have horder : inOrder (y.below ["w", "src", "htdocs"]) = y.below ["w", "src", "htdocs"] :=
      List.mergeSort_of_pairwise (by decide +kernel)
    have hz : copy.Leads y () z := leads_of_run (by decide +kernel)
    exact leads_copyTree.mpr ⟨y, _, _, leads_ofFiles.mp hy, hfind, horder.symm ▸ hz⟩
  have hprograms : (enablePrograms dir).Leads z () (programs.run.run z).2 := by
    have hdir : z.isDirectory dir = true := by decide +kernel
    have hlist := list_of_sorted (t := z) (p := dir) (l := ["w", "gen", "apache", "htdocs", "cgi"])
      (by decide +kernel) (by decide +kernel)
    have hnames : ((z.children ["w", "gen", "apache", "htdocs", "cgi"]).map Prod.fst).filter
        isProgram = ["hello.py"] := by decide +kernel
    have hrun : programs.Leads z () (programs.run.run z).2 := leads_of_run (by decide +kernel)
    unfold enablePrograms
    rw [leads_get_bind]
    simp only [hdir, if_true, leads_bind, leads_ofRead]
    exact ⟨_, z, ⟨hlist, rfl⟩, hnames.symm ▸ hrun⟩
  have hdocs : s.makeDocs.Leads x () (programs.run.run z).2 := by
    have hdir : x.isDirectory s.docsSources = true := by decide +kernel
    unfold makeDocs
    rw [leads_get_bind]
    simp only [hdir, if_true, leads_bind]
    exact ⟨(), z, hcopy, hprograms⟩
  refine ⟨(programs.run.run z).2, ?_⟩
  simp only [first, leads_bind] at hx
  obtain ⟨_, v, hv, _, w, hw, hx⟩ := hx
  unfold make
  simp only [leads_bind]
  exact ⟨(), v, hv, (), w, hw, (), x, hx, hdocs⟩

theorem documents_of_make_sample :
    let s := sampleSetup "gen" "w/src"
    let t := sampleLeftovers
    ∃ u, s.make.Leads t () u ∧
      u.node? ["w", "gen", "apache", "htdocs", "cgi", "hello.py"] = some (.file [112] true) ∧
      u.node? ["w", "gen", "apache", "htdocs", "old.html"] = none := by
  intro s t
  obtain ⟨u, hu⟩ := leads_sampleSetup
  have hr : s.Renewable t :=
    ⟨by decide +kernel, rfl, rfl, by decide +kernel, by decide +kernel, by decide +kernel⟩
  have hconf : s.Independent t s.confSources := ⟨by decide +kernel, by decide +kernel⟩
  have hdocs : s.Independent t s.docsSources := ⟨by decide +kernel, by decide +kernel⟩
  obtain ⟨-, hfile, hproduced, hwork, hbeside, hdirs⟩ := documents_of_make hr hconf hdocs hu
  have hplace : s.docsSources.place t.workDir = ["w", "src", "htdocs"] := by decide +kernel
  have hplace' : s.env.docsDir.place t.workDir = ["w", "gen", "apache", "htdocs"] := by
    decide +kernel
  have hgenerated : s.generated t = ["w", "gen"] := by decide +kernel
  rw [hplace'] at hfile
  rw [hgenerated] at hproduced
  have hdocument : ∀ r, s.document? u r = u.node? (["w", "src", "htdocs"] ++ r) := by
    intro r
    rw [document?, if_pos (hdirs _ hdocs (by decide +kernel)), hwork, hplace]
  refine ⟨u, hu, (hfile ["cgi", "hello.py"] [112] true).mpr ⟨false, ?_, ?_⟩, ?_⟩
  · obtain hsame | ⟨hnone, -⟩ :=
      hbeside ["w", "src", "htdocs", "cgi", "hello.py"] (by decide +kernel)
    · rw [hdocument]
      exact hsame
    · exact absurd hnone (by decide +kernel)
  · exact ⟨fun _ => .inr ⟨"hello", by decide, rfl⟩, fun _ => rfl⟩
  · by_contra hsome
    cases (hproduced ["apache", "htdocs", "old.html"]).mp hsome with
    | furnishing h => exact not_furnishing_documents _ h
    | document h =>
      rw [hdocument] at h
      obtain hsame | ⟨-, -, q, hq, hway⟩ :=
        hbeside ["w", "src", "htdocs", "old.html"] (by decide +kernel)
      · exact h hsame
      · have hnever : ∀ q ∈ s.env.genDir.names.inits, ["w", "src", "htdocs", "old.html"] ≠
            resolve (s.env.genDir.base t.workDir) q := by decide +kernel
        exact hnever q ((List.mem_inits _ _).mpr hq) hway

/-- Where a directory on the path is missing, the generated directory is there but is not found. It
keeps what is in it. -/
theorem make_keeps_leftovers :
    let s := sampleSetup "x/../gen" "w/none"
    let t := sampleLeftovers
    t.Grown ∧ Apart (s.generated t) (s.confSources.place t.workDir) ∧
      Apart (s.generated t) (s.docsSources.place t.workDir) ∧
      ∃ u, s.make.Leads t () u ∧ ¬ s.Produced u ["apache", "htdocs", "old.html"] ∧
        t.node? (s.generated t ++ ["apache", "htdocs", "old.html"]) = some (.file [111] false) ∧
        u.node? (s.generated t ++ ["apache", "htdocs", "old.html"]) = some (.file [111] false) := by
  intro s t
  let u := (s.make.run.run t).2
  have hu : s.make.Leads t () u := leads_of_run (by decide +kernel)
  have hproduced : ¬ s.Produced u ["apache", "htdocs", "old.html"] := by
    intro h
    cases h with
    | furnishing hf => exact not_furnishing_documents _ hf
    | document hd =>
      rw [document?, if_neg (by decide +kernel)] at hd
      exact hd (if_neg (List.cons_ne_nil _ _))
  exact ⟨by decide +kernel, by decide +kernel, by decide +kernel, u, hu, hproduced,
    by decide +kernel, by decide +kernel⟩

end WebTestbed.ServerRoot
