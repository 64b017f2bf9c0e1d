import WebTestbed.Files.FileTree
import WebTestbed.Proofs.Lookup

/-! Files that are written: what is read from them afterwards. -/
namespace WebTestbed

theorem bind_eq_ok_iff {ε α β : Type} {x : Except ε α} {f : α → Except ε β} {b : β} :
    x >>= f = .ok b ↔ ∃ a, x = .ok a ∧ f a = .ok b := by
  cases x with
  | error e => simp [bind, Except.bind]
  | ok a => simp [bind, Except.bind]

namespace FileTree

variable {t u v : FileTree} {p : Path} {l l' : Location} {n : FileNode}

theorem assign_eq_putAt (l : Location) (n : FileNode) (es : List (Location × FileNode)) :
    assign l n es = putAt l n es := by
  induction es with
  | nil => rfl
  | cons e es ih => rw [assign, putAt, ih]

theorem node?_set_self (hl : l ≠ []) : (t.set l n).node? l = some n := by
  rw [node?, if_neg (by simpa using hl), set, assign_eq_putAt, lookup_putAt, if_pos rfl]

theorem node?_set_of_ne (h : l' ≠ l) : (t.set l n).node? l' = t.node? l' := by
  unfold node? set
  rw [assign_eq_putAt, lookup_putAt, if_neg h]

theorem set_set {n n' : FileNode} : (t.set l n).set l n' = t.set l n' := by
  unfold set
  simp only [assign_eq_putAt, putAt_putAt]

theorem ne_nil_of_node?_ne (h : t.node? l ≠ some .directory) : l ≠ [] := by
  rintro rfl
  exact h rfl

theorem lookup_filter (keep : Location → Bool) (h : keep l = true)
    (es : List (Location × FileNode)) :
    (es.filter fun e => keep e.1).lookup l = es.lookup l := by
  induction es with
  | nil => rfl
  | cons e r ih =>
    by_cases he : keep e.1 = true
    · rw [List.filter_cons, if_pos he, List.lookup_cons, List.lookup_cons, ih]
    · have hne : (l == e.1) = false := beq_false_of_ne fun heq => he (heq ▸ h)
      rw [List.filter_cons, if_neg he, ih, List.lookup_cons, hne]

theorem node?_erase_self (hl : l ≠ []) : (t.erase l).node? l = none := by
  rw [node?, if_neg (by simpa using hl), erase, List.lookup_eq_none_iff]
  intro e he
  have hne : e.1 ≠ l := by simpa using (List.mem_filter.mp he).2
  exact bne_iff_ne.mpr (Ne.symm hne)

theorem node?_erase_of_ne (h : l' ≠ l) : (t.erase l).node? l' = t.node? l' := by
  unfold node? erase
  rw [lookup_filter (fun m => m ≠ l) (decide_eq_true h)]

theorem erase_of_node?_eq_none (h : t.node? l = none) : t.erase l = t := by
  have hdir : t.node? l ≠ some .directory := by simp [h]
  have hl : l ≠ [] := ne_nil_of_node?_ne hdir
  rw [node?, if_neg (by simpa using hl), List.lookup_eq_none_iff] at h
  have hfilter : t.entries.filter (·.1 ≠ l) = t.entries := by
    rw [List.filter_eq_self]
    intro e he
    have hne : l ≠ e.1 := bne_iff_ne.mp (h e he)
    simpa using Ne.symm hne
  rw [erase, hfilter]

theorem follow_dot (start : Location) (r : List String) :
    follow t start ("." :: r) = follow t start r := by
  conv => lhs; unfold follow
  rw [if_pos rfl]

theorem follow_up (start : Location) (r : List String) :
    follow t start (".." :: r) = follow t start.dropLast r := by
  conv => lhs; unfold follow
  rw [if_neg (by decide), if_pos rfl]

theorem follow_cons_of_directory {start : Location} {name : String} {r : List String}
    (hdot : name ≠ ".") (hup : name ≠ "..")
    (hn : t.node? (start ++ [name]) = some .directory) :
    follow t start (name :: r) = follow t (start ++ [name]) r := by
  conv => lhs; unfold follow
  rw [if_neg hdot, if_neg hup, hn]

/-- Only the last name can be that of a file, or of nothing. -/
theorem follow_cons_of_not_directory {start : Location} {name : String} {r : List String}
    (hdot : name ≠ ".") (hup : name ≠ "..")
    (hn : t.node? (start ++ [name]) ≠ some .directory) :
    follow t start (name :: r) = .ok l' ↔ r = [] ∧ start ++ [name] = l' := by
  unfold follow
  rw [if_neg hdot, if_neg hup]
  cases hnode : t.node? (start ++ [name]) with
  | none => cases r <;> simp
  | some n =>
    cases n with
    | directory => exact absurd hnode hn
    | file => cases r <;> simp

/-- The working directory and the places of directories are the same. -/
structure SameDirectories (t u : FileTree) : Prop where
  workDir : t.workDir = u.workDir
  node? : ∀ l, t.node? l = some .directory ↔ u.node? l = some .directory

theorem sameDirectories_set_file {content : Bytes} {x : Bool} (hl : t.node? l ≠ some .directory) :
    SameDirectories t (t.set l (.file content x)) := by
  refine ⟨rfl, fun l' => ?_⟩
  by_cases he : l' = l
  · rw [he, node?_set_self (ne_nil_of_node?_ne hl)]
    simpa using hl
  · rw [node?_set_of_ne he]

theorem sameDirectories_erase (hl : t.node? l ≠ some .directory) :
    SameDirectories t (t.erase l) := by
  refine ⟨rfl, fun l' => ?_⟩
  by_cases he : l' = l
  · rw [he, node?_erase_self (ne_nil_of_node?_ne hl)]
    simpa using hl
  · rw [node?_erase_of_ne he]

namespace SameDirectories

theorem refl (t : FileTree) : SameDirectories t t :=
  ⟨rfl, fun _ => Iff.rfl⟩

theorem symm (h : SameDirectories t u) : SameDirectories u t :=
  ⟨h.workDir.symm, fun l => (h.node? l).symm⟩

theorem trans (h : SameDirectories t u) (h' : SameDirectories u v) : SameDirectories t v :=
  ⟨h.workDir.trans h'.workDir, fun l => (h.node? l).trans (h'.node? l)⟩

/-- Where names lead to from a directory depends on the directories alone. -/
theorem follow_eq_ok (h : SameDirectories t u) {start : Location} {names : List String}
    (hl : follow t start names = .ok l) : follow u start names = .ok l := by
  induction names generalizing start with
  | nil => exact hl
  | cons name r ih =>
    by_cases hdot : name = "."
    · rw [hdot, follow_dot] at hl ⊢
      exact ih hl
    by_cases hup : name = ".."
    · rw [hup, follow_up] at hl ⊢
      exact ih hl
    by_cases hn : t.node? (start ++ [name]) = some .directory
    · rw [follow_cons_of_directory hdot hup hn] at hl
      rw [follow_cons_of_directory hdot hup ((h.node? _).mp hn)]
      exact ih hl
    · have hn' : u.node? (start ++ [name]) ≠ some .directory := mt (h.node? _).mpr hn
      rw [follow_cons_of_not_directory hdot hup hn] at hl
      rwa [follow_cons_of_not_directory hdot hup hn']

theorem locate_eq_ok (h : SameDirectories t u) (hl : t.locate p = .ok l) : u.locate p = .ok l := by
  unfold locate at hl ⊢
  rw [← h.workDir]
  by_cases hempty : p.text.isEmpty
  · rw [if_pos hempty] at hl
    cases hl
  · rw [if_neg hempty] at hl ⊢
    exact h.follow_eq_ok hl

end SameDirectories

theorem writable_cases {old : Bytes} {x : Bool} (h : t.writable p = .ok (l, old, x)) :
    t.locate p = .ok l ∧ p.endsInSlash = false ∧
      (t.node? l = none ∧ old = [] ∨ t.node? l = some (.file old x)) := by
  unfold writable at h
  obtain ⟨l₀, hl, h⟩ := bind_eq_ok_iff.mp h
  cases hslash : p.endsInSlash <;> cases hn : t.node? l₀ with
  | none => simp_all [pure, Except.pure]
  | some n => cases n <;> simp_all [pure, Except.pure]

/-- A file that can be written has the content that is added to, or is not there. -/
theorem read_of_writable {old : Bytes} {x : Bool} (h : t.writable p = .ok (l, old, x)) :
    t.read p = .ok old ∨ t.read p = .error .notFound ∧ old = [] := by
  obtain ⟨hl, hslash, ⟨hn, hold⟩ | hn⟩ := writable_cases h
  · right
    simp [read, find, hl, hn, hold, bind, Except.bind]
  · left
    simp [read, find, hl, hn, hslash, bind, Except.bind, pure, Except.pure]

theorem read_set_of_writable {old content : Bytes} {x x' : Bool}
    (h : t.writable p = .ok (l, old, x)) :
    (t.set l (.file content x')).read p = .ok content := by
  obtain ⟨hl, hslash, hn⟩ := writable_cases h
  have hfile : t.node? l ≠ some .directory := by
    obtain ⟨hn, -⟩ | hn := hn <;> rw [hn] <;> simp
  have hl' : (t.set l (.file content x')).locate p = .ok l :=
    (sameDirectories_set_file hfile).locate_eq_ok hl
  have hnode : (t.set l (.file content x')).node? l = some (.file content x') :=
    node?_set_self (ne_nil_of_node?_ne hfile)
  simp [read, find, hl', hnode, hslash, bind, Except.bind, pure, Except.pure]

/-- What is read after an append is what was read before and what was appended; a file that was not
there was empty. -/
theorem read_append {t' : FileTree} {more : Bytes} (h : t.append p more = .ok t') :
    ∃ old, (t.read p = .ok old ∨ t.read p = .error .notFound ∧ old = []) ∧
      t'.read p = .ok (old ++ more) := by
  unfold append at h
  obtain ⟨⟨l, old, x⟩, hw, ht⟩ := bind_eq_ok_iff.mp h
  cases ht
  exact ⟨old, read_of_writable hw, read_set_of_writable hw⟩

end FileTree

end WebTestbed
