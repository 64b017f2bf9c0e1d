import WebTestbed.Proofs.Files.FileTree

/-! Files that are taken away: trees that differ in one file only are then the same. -/
namespace WebTestbed.FileTree

variable {t u : FileTree} {p : Path} {l : Location}

/-- The tree without the file that a path names. -/
def without (t : FileTree) (p : Path) : FileTree :=
  match t.locate p with
  | .ok l => t.erase l
  | .error _ => t

/-- The trees are the same, or differ only in whether there is a file at the path and in what it
is. -/
def SameBut (p : Path) (t u : FileTree) : Prop :=
  t = u ∨ t.isDirectory p = false ∧ u.isDirectory p = false ∧ t.without p = u.without p

theorem SameBut.refl (p : Path) (t : FileTree) : SameBut p t t :=
  .inl rfl

theorem SameBut.symm (h : SameBut p t u) : SameBut p u t := by
  obtain rfl | ⟨ht, hu, hw⟩ := h
  · exact .refl p t
  · exact .inr ⟨hu, ht, hw.symm⟩

theorem SameBut.trans {v : FileTree} (h : SameBut p t u) (h' : SameBut p u v) : SameBut p t v := by
  obtain rfl | ⟨ht, _, hw⟩ := h
  · exact h'
  obtain rfl | ⟨_, hv, hw'⟩ := h'
  · exact .inr ⟨ht, ‹_›, hw⟩
  · exact .inr ⟨ht, hv, hw.trans hw'⟩

theorem without_of_locate (h : t.locate p = .ok l) : t.without p = t.erase l := by
  rw [without, h]

theorem without_of_not_locate {e : FileError} (h : t.locate p = .error e) : t.without p = t := by
  rw [without, h]

theorem find_of_not_locate {e : FileError} (h : t.locate p = .error e) : t.find p = .error e := by
  rw [find, h]
  rfl

theorem find_of_node?_eq_none (hl : t.locate p = .ok l) (hn : t.node? l = none) :
    t.find p = .error .notFound := by
  simp [find, hl, hn, bind, Except.bind]

theorem find_of_directory (hl : t.locate p = .ok l) (hn : t.node? l = some .directory) :
    t.find p = .ok (l, .directory) := by
  simp [find, hl, hn, bind, Except.bind, pure, Except.pure]

theorem find_of_file {content : Bytes} {x : Bool} (hl : t.locate p = .ok l)
    (hn : t.node? l = some (.file content x)) (hslash : p.endsInSlash = false) :
    t.find p = .ok (l, .file content x) := by
  simp [find, hl, hn, hslash, bind, Except.bind, pure, Except.pure]

theorem node?_ne_of_not_isDirectory (h : t.isDirectory p = false) (hl : t.locate p = .ok l) :
    t.node? l ≠ some .directory := by
  intro hn
  simp [isDirectory, found?, find_of_directory hl hn, FileNode.isDirectory] at h

theorem sameDirectories_without (h : t.isDirectory p = false) :
    SameDirectories t (t.without p) := by
  cases hl : t.locate p with
  | ok l =>
    rw [without_of_locate hl]
    exact sameDirectories_erase (node?_ne_of_not_isDirectory h hl)
  | error e =>
    rw [without_of_not_locate hl]
    exact .refl t

/-- What is taken away is not found any more. -/
theorem contains_without (h : t.isDirectory p = false) : (t.without p).contains p = false := by
  cases hl : t.locate p with
  | ok l =>
    have hn := node?_ne_of_not_isDirectory h hl
    have hl' : (t.erase l).locate p = .ok l := (sameDirectories_erase hn).locate_eq_ok hl
    have hgone : (t.erase l).node? l = none := node?_erase_self (ne_nil_of_node?_ne hn)
    rw [without_of_locate hl]
    simp [contains, found?, find_of_node?_eq_none hl' hgone]
  | error e =>
    rw [without_of_not_locate hl]
    simp [contains, found?, find_of_not_locate hl]

/-- What can be taken away, or is not there, is gone afterwards. -/
theorem eq_without_of_removeFile (hslash : p.endsInSlash = false)
    (h : t.removeFile p = .ok u ∨ t.removeFile p = .error .notFound ∧ u = t) :
    t.isDirectory p = false ∧ u = t.without p := by
  cases hl : t.locate p with
  | error e =>
    have hdir : t.isDirectory p = false := by simp [isDirectory, found?, find_of_not_locate hl]
    rw [removeFile, find_of_not_locate hl] at h
    obtain h | ⟨-, rfl⟩ := h
    · cases h
    · exact ⟨hdir, (without_of_not_locate hl).symm⟩
  | ok l =>
    rw [without_of_locate hl]
    cases hn : t.node? l with
    | none =>
      have hdir : t.isDirectory p = false := by
        simp [isDirectory, found?, find_of_node?_eq_none hl hn]
      rw [removeFile, find_of_node?_eq_none hl hn] at h
      obtain h | ⟨-, rfl⟩ := h
      · cases h
      · exact ⟨hdir, (erase_of_node?_eq_none hn).symm⟩
    | some n =>
      match n with
      | .directory =>
        rw [removeFile, find_of_directory hl hn] at h
        obtain h | ⟨h, -⟩ := h <;> cases h
      | .file content x =>
        have hdir : t.isDirectory p = false := by
          simp [isDirectory, found?, find_of_file hl hn hslash, FileNode.isDirectory]
        rw [removeFile, find_of_file hl hn hslash] at h
        obtain h | ⟨h, -⟩ := h <;> cases h
        exact ⟨hdir, rfl⟩

/-- Where there is a way to the place of a file, the file can be taken away or is not there. -/
theorem removeFile_of_locate (hslash : p.endsInSlash = false) (hl : t.locate p = .ok l)
    (h : t.isDirectory p = false) :
    t.removeFile p = .ok (t.without p) ∨ t.removeFile p = .error .notFound ∧ t.without p = t := by
  rw [without_of_locate hl]
  cases hn : t.node? l with
  | none =>
    right
    rw [removeFile, find_of_node?_eq_none hl hn]
    exact ⟨rfl, erase_of_node?_eq_none hn⟩
  | some n =>
    match n with
    | .directory => exact absurd hn (node?_ne_of_not_isDirectory h hl)
    | .file content x =>
      left
      rw [removeFile, find_of_file hl hn hslash]
      rfl

/-- Trees that differ in a file that no way leads to do not differ. -/
theorem SameBut.locate_or_eq (h : SameBut p t u) :
    t = u ∨ t.isDirectory p = false ∧ u.isDirectory p = false ∧ t.without p = u.without p ∧
      ∃ l, t.locate p = .ok l ∧ u.locate p = .ok l := by
  obtain rfl | ⟨ht, hu, hw⟩ := h
  · exact .inl rfl
  have hdirs : SameDirectories t u :=
    (sameDirectories_without ht).trans (hw ▸ (sameDirectories_without hu).symm)
  cases hl : t.locate p with
  | ok l => exact .inr ⟨ht, hu, hw, l, rfl, hdirs.locate_eq_ok hl⟩
  | error e =>
    cases hl' : u.locate p with
    | ok l =>
      rw [hdirs.symm.locate_eq_ok hl'] at hl
      cases hl
    | error e' =>
      rw [without_of_not_locate hl, without_of_not_locate hl'] at hw
      exact .inl hw

end WebTestbed.FileTree
