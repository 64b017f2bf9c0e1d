import WebTestbed.Proofs.Files.Making
import WebTestbed.Proofs.ServerRoot.Conf

/-! The generated directory, made anew: what is in it before the documents are. -/
namespace WebTestbed.ServerRoot
open FileTree Change

variable {s : ServerRoot} {t u v w : FileTree} {name : String} {l : Location}

/-- The place of the generated directory. -/
def generated (s : ServerRoot) (t : FileTree) : Location :=
  s.env.genDir.place t.workDir

/-- The directories that every run makes in the generated directory first. -/
def Remade (r : Location) : Prop :=
  r <+: ["apache", "logs"] ∨ r <+: ["apache", "conf"]

instance (r : Location) : Decidable (Remade r) :=
  inferInstanceAs (Decidable (_ ∨ _))

theorem remade_nil : Remade [] :=
  .inl List.nil_prefix

theorem not_remade_conf (name : String) : ¬ Remade ["apache", "conf", name] := by
  rintro (h | h) <;> simpa using h.length_le

theorem not_remade_documents (r : Location) : ¬ Remade ("apache" :: "htdocs" :: r) := by
  rintro (h | h) <;> simp at h

/-- The path leads through nothing that is gone for good when a directory is made anew. It may lead
through the directory itself. -/
def Lasting (l : Location) (t : FileTree) (p : Path) : Prop :=
  ∀ q, q <+: p.names → ∀ a, resolve (p.base t.workDir) q = l ++ a → Remade a

theorem lasting_iff {p : Path} :
    Lasting l t p ↔ ∀ q ∈ p.names.inits, l <+: resolve (p.base t.workDir) q →
      Remade ((resolve (p.base t.workDir) q).drop l.length) := by
  constructor
  · rintro h q hq ⟨a, ha⟩
    rw [← ha, List.drop_left]
    exact h q ((List.mem_inits _ _).mp hq) a ha.symm
  · intro h q hq a ha
    have hremade := h q ((List.mem_inits _ _).mpr hq) (ha ▸ List.prefix_append l a)
    rwa [ha, List.drop_left] at hremade

instance (l : Location) (t : FileTree) (p : Path) : Decidable (Lasting l t p) :=
  decidable_of_iff _ lasting_iff.symm

theorem Lasting.of_workDir_eq {p : Path} (h : Lasting l t p) (hwork : u.workDir = t.workDir) :
    Lasting l u p := by
  unfold Lasting
  rw [hwork]
  exact h

/-- Neither of two locations is in the other. -/
structure Apart (l l' : Location) : Prop where
  left : ¬ l <+: l'
  right : ¬ l' <+: l

instance (l l' : Location) : Decidable (Apart l l') :=
  decidable_of_iff (¬ l <+: l' ∧ ¬ l' <+: l) ⟨fun h => ⟨h.1, h.2⟩, fun h => ⟨h.left, h.right⟩⟩

theorem Apart.symm {l l' : Location} (h : Apart l l') : Apart l' l :=
  ⟨h.right, h.left⟩

theorem Apart.append {l l' : Location} (h : Apart l l') (a : Location) : Apart l (l' ++ a) := by
  refine ⟨fun hp => ?_, fun hp => h.right ((List.prefix_append l' a).trans hp)⟩
  exact (List.prefix_or_prefix_of_prefix hp (List.prefix_append l' a)).elim h.left h.right

/-- What holds where the generated directory can be made anew: its path finds it if it is there, does
not start in it, and leads through nothing that the wipe takes away for good. -/
structure Renewable (s : ServerRoot) (t : FileTree) : Prop where
  grown : t.Grown
  workDir : t.node? t.workDir = some .directory
  server : s.env.serverDir = s.env.genDir.join "apache"
  starts : ¬ s.generated t <+: s.env.genDir.base t.workDir
  lasting : Lasting (s.generated t) t s.env.genDir
  found : t.node? (s.generated t) ≠ none → t.contains s.env.genDir = true

/-- The sources at a path lie apart from the generated directory, and the wipe leaves a way to them.
-/
structure Independent (s : ServerRoot) (t : FileTree) (p : Path) : Prop where
  apart : Apart (s.generated t) (p.place t.workDir)
  lasting : Lasting (s.generated t) t p

/-- The generated directory is there with directories for the logs and the configuration, and with
nothing else. -/
structure Fresh (s : ServerRoot) (t u : FileTree) : Prop where
  grown : u.Grown
  workDir : u.workDir = t.workDir
  way : u.way? s.env.genDir = some (s.generated t)
  inside : ∀ r, u.node? (s.generated t ++ r) = if Remade r then some .directory else none
  beside : ∀ l, ¬ s.generated t <+: l → Paved s.env.genDir t u l

/-- The generated directory is emptied and taken away, if it is found. -/
def Wiped (s : ServerRoot) (t v : FileTree) : Prop :=
  if t.contains s.env.genDir then
    ∃ u, t.emptyDirectory s.env.genDir = .ok u ∧ u.removeEmptied s.env.genDir = .ok v
  else v = t

theorem of_leads_makeDirs (h : s.makeDirs.Leads t () u) :
    ∃ v w x, s.Wiped t v ∧ v.makeDirectories s.env.genDir = .ok w ∧
      w.makeDirectories s.env.logsDir = .ok x ∧ x.makeDirectories s.env.confDir = .ok u := by
  unfold makeDirs at h
  rw [leads_get_bind] at h
  by_cases hc : t.contains s.env.genDir = true
  · simp only [hc, if_true, leads_bind, leads_ofFiles] at h
    obtain ⟨_, t', ht', _, v, hv, _, w, hw, _, x, hx, hu⟩ := h
    exact ⟨v, w, x, (if_pos hc).mpr ⟨t', ht', hv⟩, hw, hx, hu⟩
  · simp only [hc, Bool.false_eq_true, if_false, leads_bind, leads_ofFiles] at h
    obtain ⟨_, w, hw, _, x, hx, hu⟩ := h
    exact ⟨t, w, x, (if_neg hc).mpr rfl, hw, hx, hu⟩

theorem Renewable.extends (h : s.Renewable t) (hname : Path.IsName name) :
    s.env.genDir.Extends (s.env.serverDir.join name) ["apache", name] := by
  rw [h.server]
  exact (Path.Extends.join (by decide) s.env.genDir).trans (Path.Extends.join hname _)

/-- Nothing is left in the generated directory, and nothing else is changed. -/
theorem Renewable.wiped (h : s.Renewable t) (hv : s.Wiped t v) :
    v.Grown ∧ v.workDir = t.workDir ∧ (∀ r, r ≠ [] → v.node? (s.generated t ++ r) = none) ∧
      ∀ l, ¬ s.generated t <+: l → v.node? l = t.node? l := by
  have hne : s.generated t ≠ [] := fun he => h.starts (he ▸ List.nil_prefix)
  unfold Wiped at hv
  split at hv
  · obtain ⟨u, hu, hv⟩ := hv
    obtain ⟨l, hfind, rfl⟩ := emptyDirectory_eq_ok hu
    obtain rfl : l = s.generated t := eq_place_of_locate (locate_of_find hfind).1
    have hgrown := h.grown.eraseBelow (s.generated t)
    have hbelow : ∀ r, r ≠ [] → (t.eraseBelow (s.generated t)).node? (s.generated t ++ r) = none :=
      fun r hr => node?_eraseBelow_below hr
    have hbeside : ∀ l, ¬ s.generated t <+: l →
        (t.eraseBelow (s.generated t)).node? l = t.node? l := fun l hl =>
      node?_eraseBelow_beside fun a _ heq => hl (heq ▸ List.prefix_append _ a)
    obtain rfl | ⟨l, hfind', rfl⟩ := removeEmptied_eq_ok hv
    · exact ⟨hgrown, rfl, hbelow, hbeside⟩
    · obtain rfl : l = s.generated t :=
        eq_place_of_locate (t := t.eraseBelow (s.generated t)) (locate_of_find hfind').1
      refine ⟨hgrown.erase hne fun name => hbelow [name] (List.cons_ne_nil _ _), rfl,
        fun r hr => ?_, fun l hl => ?_⟩
      · rw [node?_erase_of_ne (by simpa using hr), hbelow r hr]
      · have hne : l ≠ s.generated t := fun heq => hl (heq ▸ List.prefix_rfl)
        rw [node?_erase_of_ne hne, hbeside l hl]
  · next hc =>
    subst v
    have hnone : t.node? (s.generated t) = none := by
      by_contra hsome
      exact hc (h.found hsome)
    refine ⟨h.grown, rfl, fun r hr => ?_, fun _ _ => rfl⟩
    by_contra hsome
    rw [h.grown.node?_of_append hr hsome] at hnone
    cases hnone

theorem Renewable.text_ne_empty (h : s.Renewable t) : s.env.genDir.text ≠ "" := by
  intro hempty
  have hpath : s.env.genDir = ⟨""⟩ := congrArg Path.mk hempty
  refine h.starts ?_
  rw [generated, hpath]
  exact List.prefix_rfl

/-- The directory is made along its path, with nothing in it but what the path leads through. -/
theorem Renewable.made (h : s.Renewable t) (hv : s.Wiped t v)
    (hw : v.makeDirectories s.env.genDir = .ok w) :
    w.Grown ∧ w.workDir = t.workDir ∧ w.HasBase s.env.genDir ∧
      w.way? s.env.genDir = some (s.generated t) ∧
      (∀ r, ¬ Remade r → w.node? (s.generated t ++ r) = none) ∧
      ∀ l, ¬ s.generated t <+: l → Paved s.env.genDir t w l := by
  obtain ⟨hgrown, hwork, hnone, hbeside⟩ := h.wiped hv
  have hbase : v.HasBase s.env.genDir := by
    unfold HasBase
    rw [hwork, hbeside _ h.starts]
    exact hasBase_of_workDir h.workDir _
  obtain ⟨hmakes, hway⟩ := makes_of_makeDirectories hgrown hbase hw
  refine ⟨hmakes.grown, hmakes.workDir.trans hwork, hmakes.hasBase hbase, ?_, fun r hr => ?_,
    fun l hl => ?_⟩
  · rw [hway h.text_ne_empty, hwork]
    rfl
  · obtain heq | ⟨-, -, q, hq, hplace⟩ := hmakes.node? (s.generated t ++ r)
    · rw [heq, hnone r fun hnil => hr (hnil ▸ remade_nil)]
    · rw [hwork] at hplace
      exact absurd (h.lasting q hq r hplace.symm) hr
  · have hwiped : Paved s.env.genDir t v l := .inl (hbeside l hl)
    exact hwiped.trans (hmakes.node? l) hwork

theorem Renewable.fresh (h : s.Renewable t) (hu : s.makeDirs.Leads t () u) : s.Fresh t u := by
  obtain ⟨v, w, x, hv, hw, hx, hu⟩ := of_leads_makeDirs hu
  obtain ⟨hgrown, hwork, hbase, hway, hnone, hbeside⟩ := h.made hv hw
  obtain ⟨hgrownx, hworkx, hbasex, hwayx, hlogs, hsamex⟩ := node?_of_makeDirectories hgrown hbase
    (h.extends (by decide)) hway (Path.text_join_ne_empty _ (by decide)) hx
  obtain ⟨hgrownu, hworku, -, hwayu, hconf, hsameu⟩ := node?_of_makeDirectories hgrownx hbasex
    (h.extends (by decide)) hwayx (Path.text_join_ne_empty _ (by decide)) hu
  refine ⟨hgrownu, hworku.trans (hworkx.trans hwork), hwayu, fun r => ?_, fun l hl => ?_⟩
  · by_cases hrc : r <+: ["apache", "conf"]
    · rw [if_pos (show Remade r from .inr hrc), hconf r hrc]
    · have hsame : u.node? (s.generated t ++ r) = x.node? (s.generated t ++ r) :=
        hsameu _ fun a ha heq => hrc (List.append_cancel_left heq ▸ ha)
      rw [hsame]
      by_cases hrl : r <+: ["apache", "logs"]
      · rw [if_pos (show Remade r from .inl hrl), hlogs r hrl]
      · have hne : ¬ Remade r := not_or.mpr ⟨hrl, hrc⟩
        rw [if_neg hne,
          hsamex (s.generated t ++ r) fun a ha heq => hrl (List.append_cancel_left heq ▸ ha)]
        exact hnone r hne
  · have hbelow : ∀ a, l ≠ s.generated t ++ a := fun a heq => hl (heq ▸ List.prefix_append _ a)
    have hsame : u.node? l = w.node? l := by
      rw [hsameu l fun a _ => hbelow a, hsamex l fun a _ => hbelow a]
    exact (hbeside l hl).congr_right hsame

section Lasting

variable {p : Path} (hwork : u.workDir = t.workDir) (hp : Lasting l t p)
  (hdirs : ∀ l', (∀ a, l' = l ++ a → Remade a) →
    t.node? l' = some .directory → u.node? l' = some .directory)

include hwork hp hdirs

theorem hasBase_of_lasting (hbase : t.HasBase p) : u.HasBase p := by
  unfold HasBase
  rw [hwork]
  exact hdirs _ (hp [] List.nil_prefix) hbase

/-- Where the directories are there that last, a path leads to a directory as before. -/
theorem isDirectory_of_lasting (h : t.Grown) (hbase : t.HasBase p)
    (hdir : t.isDirectory p = true) : u.isDirectory p = true := by
  obtain ⟨htext, m, hway, -⟩ := isDirectory_iff.mp hdir
  have hplaces : ∀ q, q <+: p.names →
      u.node? (resolve (p.base t.workDir) q) = some .directory := fun q hq =>
    hdirs _ (hp q hq) (h.node?_of_walk? hbase hway hq)
  have hway' : u.way? p = some (p.place t.workDir) := by
    unfold way?
    rw [hwork, walk?_of_node? hplaces]
    rfl
  exact isDirectory_iff.mpr ⟨htext, _, hway', hplaces _ List.prefix_rfl⟩

end Lasting

/-- Two trees hold the same, but for what is inside a directory and not made there by every run. -/
structure Beside (l : Location) (t u : FileTree) : Prop where
  workDir : u.workDir = t.workDir
  node? : ∀ l', (∀ a, l' = l ++ a → Remade a) → u.node? l' = t.node? l'

namespace Beside

theorem refl (l : Location) (t : FileTree) : Beside l t t :=
  ⟨rfl, fun _ _ => rfl⟩

theorem trans (h : Beside l t u) (h' : Beside l u v) : Beside l t v :=
  ⟨h'.workDir.trans h.workDir, fun l' hl' => (h'.node? l' hl').trans (h.node? l' hl')⟩

theorem symm (h : Beside l t u) : Beside l u t :=
  ⟨h.workDir.symm, fun l' hl' => (h.node? l' hl').symm⟩

theorem node?_of_not_prefixed (h : Beside l t u) {l' : Location} (hl : ¬ l <+: l') :
    u.node? l' = t.node? l' :=
  h.node? l' fun a heq => absurd (heq ▸ List.prefix_append l a) hl

theorem hasBase {p : Path} (h : Beside l t u) (hp : Lasting l t p) (hbase : t.HasBase p) :
    u.HasBase p :=
  hasBase_of_lasting h.workDir hp (fun l' hl' hdir => by rwa [h.node? l' hl']) hbase

theorem isDirectory_eq {p : Path} (h : Beside l t u) (ht : t.Grown) (hu : u.Grown)
    (hp : Lasting l t p) (hbase : t.HasBase p) : u.isDirectory p = t.isDirectory p := by
  rw [Bool.eq_iff_iff]
  constructor
  · exact isDirectory_of_lasting h.workDir.symm (hp.of_workDir_eq h.workDir)
      (fun l' hl' hdir => by rwa [← h.node? l' hl']) hu (h.hasBase hp hbase)
  · exact isDirectory_of_lasting h.workDir hp
      (fun l' hl' hdir => by rwa [h.node? l' hl']) ht hbase

end Beside

/-- What the configuration directory gets from the sources: a file for each of them, and nothing
else. -/
theorem of_leads_makeConf (h : u.Grown)
    (hapart : s.confSources.place u.workDir ≠ s.env.confDir.place u.workDir)
    (hv : s.makeConf.Leads u () v) :
    v.Grown ∧ SameDirectories u v ∧
      (∀ l, (∀ name, l ≠ s.env.confDir.place u.workDir ++ [name]) → v.node? l = u.node? l) ∧
      ∀ place, v.node? (s.env.confDir.place u.workDir ++ [place]) ≠ none ↔
        u.node? (s.env.confDir.place u.workDir ++ [place]) ≠ none ∨
          u.isDirectory s.confSources = true ∧ ∃ name content x,
            u.node? (s.confSources.place u.workDir ++ [name]) = some (.file content x) ∧
              target name = place := by
  rw [leads_makeConf] at hv
  split at hv
  · next hdir =>
    obtain ⟨names, hlist, hrun⟩ := hv
    obtain ⟨-, -, hmem⟩ := fileNames_eq_ok h hlist
    obtain ⟨hall, rfl⟩ := (leads_placeSources_of_perm h hlist hapart (.refl names)).mp hrun
    have hkept := (Kept.refl (s := s) h).foldl (fun name hname => (hall name hname).2) hapart
    refine ⟨hkept.grown, hkept.directories, fun l hl => ?_, fun place => ?_⟩
    · rw [node?_foldl_put, rivals_eq_nil hl, List.foldl_nil]
    · rw [node?_foldl_put, ← Option.isSome_iff_ne_none, isSome_foldl_after, Bool.or_eq_true,
        Option.isSome_iff_ne_none, List.any_eq_true]
      refine or_congr_right ?_
      constructor
      · rintro ⟨name, hname, -⟩
        obtain ⟨hname, hplace⟩ := mem_rivals.mp hname
        obtain ⟨content, x, hn⟩ := (hmem name).mp hname
        exact ⟨hdir, name, content, x, hn, hplace⟩
      · rintro ⟨-, name, content, x, hn, rfl⟩
        have hname := (hmem name).mpr ⟨content, x, hn⟩
        exact ⟨name, mem_rivals.mpr ⟨hname, rfl⟩, (hall name hname).1⟩
  · next hdir =>
    subst hv
    exact ⟨h, .refl v, fun _ _ => rfl, fun place => by simp [hdir]⟩

/-- The list of modules is one file. -/
theorem of_leads_writeModules (h : u.Grown) (hbase : u.HasBase s.env.modulesConfFile)
    {names : List String}
    (hv : (s.writeModules names).Leads u () v) :
    Writes (s.env.modulesConfFile.place u.workDir) u v := by
  unfold writeModules at hv
  simp only [leads_bind, leads_ofFiles, leads_get] at hv
  obtain ⟨_, w, hw, _, _, ⟨rfl, rfl⟩, _, x, hx, hend⟩ := hv
  have hwrite := h.writes_of_write hbase hw
  have hwrite' := hwrite.grown.writes_of_write (hwrite.directories.hasBase hbase) hx
  rw [← hwrite.directories.workDir] at hwrite'
  rw [leads_ite] at hend
  split at hend
  · obtain ⟨-, rfl⟩ := leads_pure.mp hend
    exact hwrite.trans hwrite'
  · exact absurd hend not_leads_throw

/-- What a run makes in the generated directory before it makes the documents. -/
inductive Furnishing (s : ServerRoot) (u : FileTree) : Location → Prop where
  | directory {r : Location} (h : Remade r) : Furnishing s u r
  | modules : Furnishing s u ["apache", "conf", "modules.conf"]
  | source {name : String} {content : Bytes} {x : Bool} (hdir : u.isDirectory s.confSources = true)
      (hn : u.node? (s.confSources.place u.workDir ++ [name]) = some (.file content x)) :
      Furnishing s u ["apache", "conf", target name]

theorem furnishing_conf_iff :
    s.Furnishing u ["apache", "conf", name] ↔
      name = "modules.conf" ∨ u.isDirectory s.confSources = true ∧ ∃ source content x,
        u.node? (s.confSources.place u.workDir ++ [source]) = some (.file content x) ∧
          target source = name := by
  constructor
  · intro h
    cases h with
    | directory h => exact absurd h (not_remade_conf name)
    | modules => exact .inl rfl
    | source hdir hn => exact .inr ⟨hdir, _, _, _, hn, rfl⟩
  · rintro (rfl | ⟨hdir, source, content, x, hn, rfl⟩)
    · exact .modules
    · exact .source hdir hn

theorem furnishing_iff_of_ne {r : Location} (hr : ∀ name, r ≠ ["apache", "conf", name]) :
    s.Furnishing u r ↔ Remade r := by
  constructor
  · intro h
    cases h with
    | directory h => exact h
    | modules => exact absurd rfl (hr _)
    | source => exact absurd rfl (hr _)
  · exact .directory

/-- The generated directory holds all but the documents, and nothing else. -/
structure Furnished (s : ServerRoot) (t w : FileTree) : Prop where
  grown : w.Grown
  workDir : w.workDir = t.workDir
  base : ∀ {p}, Lasting (s.generated t) t p → w.HasBase p
  way : w.way? s.env.genDir = some (s.generated t)
  inside : ∀ r, w.node? (s.generated t ++ r) ≠ none ↔ s.Furnishing w r
  beside : ∀ l, ¬ s.generated t <+: l → Paved s.env.genDir t w l
  sources : ∀ p, s.Independent t p → t.isDirectory p = true → w.isDirectory p = true

theorem Fresh.node?_directory (h : s.Fresh t u) (hl : ∀ a, l = s.generated t ++ a → Remade a)
    (hnode : t.node? l = some .directory) : u.node? l = some .directory := by
  by_cases hin : s.generated t <+: l
  · obtain ⟨a, rfl⟩ := hin
    rw [h.inside, if_pos (hl a rfl)]
  · exact (h.beside l hin).node?_directory hnode

theorem Fresh.hasBase (h : s.Fresh t u) (hr : s.Renewable t) {p : Path}
    (hp : Lasting (s.generated t) t p) : u.HasBase p :=
  hasBase_of_lasting h.workDir hp (fun _ => h.node?_directory) (hasBase_of_workDir hr.workDir p)

theorem Fresh.isDirectory_of_independent (h : s.Fresh t u) (hr : s.Renewable t) {p : Path}
    (hp : s.Independent t p) (hdir : t.isDirectory p = true) : u.isDirectory p = true :=
  isDirectory_of_lasting h.workDir hp.lasting (fun _ => h.node?_directory) hr.grown
    (hasBase_of_workDir hr.workDir p) hdir

section Independent

variable {p : Path} (hp : s.Independent t p) (h : Beside (s.generated t) u v)
  (hwork : u.workDir = t.workDir)

include hp h hwork

theorem Independent.isDirectory_eq (hu : u.Grown) (hv : v.Grown) (hbase : u.HasBase p) :
    v.isDirectory p = u.isDirectory p :=
  h.isDirectory_eq hu hv (hp.lasting.of_workDir_eq hwork) hbase

theorem Independent.node?_eq (r : Location) :
    v.node? (p.place v.workDir ++ r) = u.node? (p.place u.workDir ++ r) := by
  rw [h.workDir, hwork, h.node?_of_not_prefixed (hp.apart.append r).left]

end Independent

theorem Renewable.place_join (h : s.Renewable t) (hname : Path.IsName name)
    (hwork : u.workDir = t.workDir) :
    (s.env.serverDir.join name).place u.workDir = s.generated t ++ ["apache", name] := by
  rw [hwork, (h.extends hname).place_eq, generated]

/-- A configuration directory with files of its own in it. -/
structure Configured (s : ServerRoot) (t u w : FileTree) : Prop where
  grown : w.Grown
  directories : SameDirectories u w
  file : ∀ name, w.node? (s.generated t ++ ["apache", "conf", name]) ≠ none ↔
    name = "modules.conf" ∨ u.isDirectory s.confSources = true ∧ ∃ source content x,
      u.node? (s.confSources.place u.workDir ++ [source]) = some (.file content x) ∧
        target source = name
  node? : ∀ l, (∀ name, l ≠ s.generated t ++ ["apache", "conf", name]) → w.node? l = u.node? l

theorem Configured.beside (h : s.Configured t u w) : Beside (s.generated t) u w :=
  ⟨h.directories.workDir.symm, fun l hl => h.node? l fun name heq =>
    not_remade_conf name (hl _ heq)⟩

/-- The configuration and the list of modules come into the empty configuration directory. -/
theorem Fresh.configured (h : s.Fresh t u) (hr : s.Renewable t)
    (hconf : s.Independent t s.confSources) {names : List String}
    (hv : s.makeConf.Leads u () v) (hw : (s.writeModules names).Leads v () w) :
    s.Configured t u w := by
  have hplace : s.env.confDir.place u.workDir = s.generated t ++ ["apache", "conf"] :=
    hr.place_join (by decide) h.workDir
  have hapart : s.confSources.place u.workDir ≠ s.env.confDir.place u.workDir := by
    rw [hplace, h.workDir]
    intro heq
    exact hconf.apart.left (heq ▸ List.prefix_append _ _)
  obtain ⟨hgrown, hdirs, hsame, hfiles⟩ := of_leads_makeConf h.grown hapart hv
  have hmodules : s.env.modulesConfFile.place v.workDir =
      s.env.confDir.place u.workDir ++ ["modules.conf"] := by
    rw [← hdirs.workDir, Environment.modulesConfFile, Path.place_join _ _ (by decide)]
  have hbase : u.HasBase s.env.confDir := (hr.extends (by decide)).hasBase (h.hasBase hr hr.lasting)
  have hbase' : u.HasBase s.env.modulesConfFile := (Path.Extends.join (by decide) _).hasBase hbase
  have hwrites := of_leads_writeModules hgrown (hdirs.hasBase hbase') hw
  simp only [hmodules, hplace, List.append_assoc, List.cons_append, List.nil_append] at hwrites
  simp only [hplace, List.append_assoc, List.cons_append, List.nil_append] at hsame hfiles
  refine ⟨hwrites.grown, hdirs.trans hwrites.directories, fun name => ?_, fun l hl => ?_⟩
  · by_cases hname : name = "modules.conf"
    · obtain ⟨content, x, hself⟩ := hwrites.node?_self
      simp [hname, hself]
    · have hnone : u.node? (s.generated t ++ ["apache", "conf", name]) = none := by
        rw [h.inside, if_neg (not_remade_conf name)]
      rw [hwrites.node?_of_ne _ (by simpa using hname), hfiles]
      simp [hnone, hname]
  · rw [hwrites.node?_of_ne l (hl _), hsame l hl]

/-- The configuration and the list of modules are all that is added to the empty directories. -/
theorem Fresh.furnished (h : s.Fresh t u) (hr : s.Renewable t)
    (hconf : s.Independent t s.confSources) (hw : s.Configured t u w) : s.Furnished t w := by
  have hdir := hconf.isDirectory_eq hw.beside h.workDir h.grown hw.grown
    (h.hasBase hr hconf.lasting)
  have hsource := fun name => hconf.node?_eq hw.beside h.workDir [name]
  refine ⟨hw.grown, hw.beside.workDir.trans h.workDir,
    fun hp => hw.directories.hasBase (h.hasBase hr hp), ?_, fun r => ?_, fun l hl => ?_,
    fun p hp hd => ?_⟩
  · rw [hw.directories.way?_eq, h.way]
  · by_cases hr' : ∃ name, r = ["apache", "conf", name]
    · obtain ⟨name, rfl⟩ := hr'
      rw [hw.file, furnishing_conf_iff, hdir]
      simp only [hsource]
    · have hne : ∀ name, r ≠ ["apache", "conf", name] := fun name heq => hr' ⟨name, heq⟩
      rw [hw.node? _ fun name heq => hne name (List.append_cancel_left heq), h.inside,
        furnishing_iff_of_ne hne]
      split <;> simp [*]
  · exact (h.beside l hl).congr_right (hw.beside.node?_of_not_prefixed hl)
  · rw [hp.isDirectory_eq hw.beside h.workDir h.grown hw.grown (h.hasBase hr hp.lasting)]
    exact h.isDirectory_of_independent hr hp hd

end WebTestbed.ServerRoot
