import WebTestbed.Proofs.Files.Grown
import WebTestbed.Proofs.Files.Removal

/-! What each operation on files does when it is successful. -/
namespace WebTestbed.FileTree

variable {t u : FileTree} {p source target : Path} {name : String} {l m : Location}
  {content old : Bytes} {x : Bool}

theorem find_join_eq_ok_file (hn : Path.IsName name) :
    t.find (p.join name) = .ok (l, .file content x) ↔
      ∃ m, t.way? p = some m ∧ l = m ++ [name] ∧ t.node? l = some (.file content x) := by
  have hslash : (p.join name).endsInSlash = false := by
    rw [Path.endsInSlash_join p (mt String.toList_eq_nil_iff.mp hn.ne_empty), hn.endsInSlash_eq]
  constructor
  · intro h
    obtain ⟨l₀, hl, h⟩ := bind_eq_ok_iff.mp h
    obtain ⟨m, hm, rfl⟩ := (locate_join_eq_ok hn).mp hl
    cases hnode : t.node? (m ++ [name]) with
    | none => simp [hnode] at h
    | some n => cases n <;> simp_all [pure, Except.pure]
  · rintro ⟨m, hm, rfl, hnode⟩
    exact find_of_file ((locate_join_eq_ok hn).mpr ⟨m, hm, rfl⟩) hnode hslash

theorem writable_join_eq_ok (hn : Path.IsName name) :
    t.writable (p.join name) = .ok (l, old, x) ↔
      ∃ m, t.way? p = some m ∧ l = m ++ [name] ∧
        (t.node? l = none ∧ old = [] ∧ x = false ∨ t.node? l = some (.file old x)) := by
  have hslash : (p.join name).endsInSlash = false := by
    rw [Path.endsInSlash_join p (mt String.toList_eq_nil_iff.mp hn.ne_empty), hn.endsInSlash_eq]
  constructor
  · intro h
    obtain ⟨l₀, hl, h⟩ := bind_eq_ok_iff.mp h
    obtain ⟨m, hm, rfl⟩ := (locate_join_eq_ok hn).mp hl
    refine ⟨m, hm, ?_⟩
    cases hnode : t.node? (m ++ [name]) with
    | none => simp_all [pure, Except.pure]
    | some n => cases n <;> simp_all [pure, Except.pure]
  · rintro ⟨m, hm, rfl, ⟨hnode, rfl, rfl⟩ | hnode⟩ <;>
    · have hl := (locate_join_eq_ok hn).mpr ⟨m, hm, rfl⟩
      simp [writable, hl, hnode, hslash, bind, Except.bind, pure, Except.pure]

theorem write_eq_ok :
    t.write p content = .ok u ↔
      ∃ l old x, t.writable p = .ok (l, old, x) ∧ u = t.set l (.file content x) := by
  unfold write
  rw [bind_eq_ok_iff]
  constructor
  · rintro ⟨⟨l, old, x⟩, hw, hu⟩
    exact ⟨l, old, x, hw, (Except.ok.inj hu).symm⟩
  · rintro ⟨l, old, x, hw, rfl⟩
    exact ⟨(l, old, x), hw, rfl⟩

theorem copyFile_eq_ok :
    t.copyFile source target = .ok u ↔
      ∃ start content x l old x', t.find source = .ok (start, .file content x) ∧
        t.writable target = .ok (l, old, x') ∧
        u = t.set l (.file (if l = start then [] else content) x) := by
  unfold copyFile
  rw [bind_eq_ok_iff]
  constructor
  · rintro ⟨⟨start, n⟩, hfind, h⟩
    cases n with
    | directory => cases h
    | file content x =>
      obtain ⟨⟨l, old, x'⟩, hw, hu⟩ := bind_eq_ok_iff.mp h
      exact ⟨start, content, x, l, old, x', hfind, hw, (Except.ok.inj hu).symm⟩
  · rintro ⟨start, content, x, l, old, x', hfind, hw, rfl⟩
    exact ⟨(start, .file content x), hfind, bind_eq_ok_iff.mpr ⟨(l, old, x'), hw, rfl⟩⟩

theorem read_eq_ok : t.read p = .ok content ↔ ∃ l x, t.find p = .ok (l, .file content x) := by
  unfold read
  rw [bind_eq_ok_iff]
  constructor
  · rintro ⟨⟨l, n⟩, hfind, h⟩
    cases n with
    | directory => cases h
    | file content' x =>
      obtain rfl : content' = content := Except.ok.inj h
      exact ⟨l, x, hfind⟩
  · rintro ⟨l, x, hfind⟩
    exact ⟨(l, .file content x), hfind, rfl⟩

theorem readText_eq_ok {text : String} :
    t.readText p = .ok text ↔
      ∃ content s, t.read p = .ok content ∧ Utf8.decode? content = some s ∧
        text = String.ofList s := by
  unfold readText
  rw [bind_eq_ok_iff]
  refine exists_congr fun content => ?_
  cases hdecode : Utf8.decode? content with
  | none => simp
  | some s => simp [pure, Except.pure, eq_comm]

theorem node?_ne_directory_of_writable (h : t.writable p = .ok (l, old, x)) :
    t.node? l ≠ some .directory := by
  obtain ⟨-, -, ⟨hn, -⟩ | hn⟩ := writable_cases h <;> simp [hn]

theorem writable_set_of_writable {x' : Bool} (h : t.writable p = .ok (l, old, x)) :
    (t.set l (.file content x')).writable p = .ok (l, content, x') := by
  have hdir := node?_ne_directory_of_writable h
  obtain ⟨hl, hslash, -⟩ := writable_cases h
  have hl' : (t.set l (.file content x')).locate p = .ok l :=
    (sameDirectories_set_file hdir).locate_eq_ok hl
  simp [writable, hl', node?_set_self (ne_nil_of_node?_ne hdir), hslash, bind, Except.bind, pure,
    Except.pure]

theorem locate_of_find {n : FileNode} (h : t.find p = .ok (l, n)) :
    t.locate p = .ok l ∧ t.node? l = some n := by
  obtain ⟨l₀, hl, h⟩ := bind_eq_ok_iff.mp h
  cases hnode : t.node? l₀ with
  | none => simp [hnode] at h
  | some n₀ =>
    cases n₀ with
    | directory => simp_all [pure, Except.pure]
    | file content x => cases hslash : p.endsInSlash <;> simp_all [pure, Except.pure]

theorem isFile_iff :
    t.isFile p = true ↔ ∃ l content x, t.locate p = .ok l ∧
      t.node? l = some (.file content x) ∧ p.endsInSlash = false := by
  constructor
  · intro h
    cases hf : t.find p with
    | error e => simp [isFile, found?, hf] at h
    | ok r =>
      obtain ⟨l, n⟩ := r
      cases n with
      | directory => simp [isFile, found?, hf, FileNode.isDirectory] at h
      | file content x =>
        obtain ⟨hl, hn⟩ := locate_of_find hf
        refine ⟨l, content, x, hl, hn, ?_⟩
        cases hslash : p.endsInSlash with
        | false => rfl
        | true => simp [find, hl, hn, hslash, bind, Except.bind] at hf
  · rintro ⟨l, content, x, hl, hn, hslash⟩
    simp [isFile, found?, find_of_file hl hn hslash, FileNode.isDirectory]

/-- Whether a path is that of a file does not depend on what is in another file. -/
theorem isFile_set_of_ne (hl : t.node? l ≠ some .directory) (hne : p.place t.workDir ≠ l) :
    (t.set l (.file content x)).isFile p = t.isFile p := by
  have hdirs : SameDirectories t (t.set l (.file content x)) := sameDirectories_set_file hl
  rw [Bool.eq_iff_iff, isFile_iff, isFile_iff]
  constructor
  · rintro ⟨m, c, x', hm, hn, hslash⟩
    have hm' := hdirs.symm.locate_eq_ok hm
    rw [eq_place_of_locate hm', node?_set_of_ne hne, ← eq_place_of_locate hm'] at hn
    exact ⟨m, c, x', hm', hn, hslash⟩
  · rintro ⟨m, c, x', hm, hn, hslash⟩
    refine ⟨m, c, x', hdirs.locate_eq_ok hm, ?_, hslash⟩
    rwa [eq_place_of_locate hm, node?_set_of_ne hne, ← eq_place_of_locate hm]

theorem list_of_sorted (hfind : t.find p = .ok (l, .directory))
    (hsorted : (t.children l).Pairwise fun a b => decide (a.1 ≤ b.1) = true) :
    t.list p = .ok (t.children l) := by
  simp only [list, hfind, bind, Except.bind, pure, Except.pure]
  rw [List.mergeSort_of_pairwise hsorted]

theorem setExecutable_eq_ok :
    t.setExecutable p x = .ok u ↔
      (∃ l content x', t.find p = .ok (l, .file content x') ∧ u = t.set l (.file content x)) ∨
        (∃ l, t.find p = .ok (l, .directory)) ∧ u = t := by
  unfold setExecutable
  rw [bind_eq_ok_iff]
  constructor
  · rintro ⟨⟨l, n⟩, hfind, hu⟩
    cases n with
    | directory => exact .inr ⟨⟨l, hfind⟩, (Except.ok.inj hu).symm⟩
    | file content x' => exact .inl ⟨l, content, x', hfind, (Except.ok.inj hu).symm⟩
  · rintro (⟨l, content, x', hfind, rfl⟩ | ⟨⟨l, hfind⟩, rfl⟩)
    · exact ⟨_, hfind, rfl⟩
    · exact ⟨_, hfind, rfl⟩

theorem emptyDirectory_eq_ok (h : t.emptyDirectory p = .ok u) :
    ∃ l, t.find p = .ok (l, .directory) ∧ u = t.eraseBelow l := by
  obtain ⟨⟨l, n⟩, hfind, hu⟩ := bind_eq_ok_iff.mp h
  cases n with
  | file content x => cases hu
  | directory => exact ⟨l, hfind, (Except.ok.inj hu).symm⟩

/-- A directory that was emptied is taken away, or left as it is. -/
theorem removeEmptied_eq_ok (h : t.removeEmptied p = .ok u) :
    u = t ∨ ∃ l, t.find p = .ok (l, .directory) ∧ u = t.erase l := by
  unfold removeEmptied at h
  split at h
  · exact .inl (Except.ok.inj h).symm
  · obtain ⟨⟨l, n⟩, hfind, hu⟩ := bind_eq_ok_iff.mp h
    cases n with
    | file content x => cases hu
    | directory =>
      dsimp only at hu
      split_ifs at hu
      exact .inr ⟨l, hfind, (Except.ok.inj hu).symm⟩

/-- A file was written at a location, and nothing else was done. -/
structure Writes (l : Location) (t u : FileTree) : Prop where
  grown : u.Grown
  directories : SameDirectories t u
  node?_self : ∃ content x, u.node? l = some (.file content x)
  node?_of_ne : ∀ l', l' ≠ l → u.node? l' = t.node? l'

theorem Writes.trans {v : FileTree} (h : Writes l t u) (h' : Writes l u v) : Writes l t v :=
  ⟨h'.grown, h.directories.trans h'.directories, h'.node?_self, fun l' hl' =>
    (h'.node?_of_ne l' hl').trans (h.node?_of_ne l' hl')⟩

namespace Grown

theorem way?_eq_place (h : Grown t) (hbase : t.HasBase p) (hway : t.way? p = some l) :
    l = p.place t.workDir ∧ t.node? l = some .directory := by
  have hplace := eq_place_of_way? hway
  refine ⟨hplace, ?_⟩
  rw [hplace]
  exact h.node?_of_walk? hbase hway List.prefix_rfl

/-- What can be written has a name. -/
theorem isName_of_writable (h : Grown t) (hempty : name ≠ "") (hslash : '/' ∉ name.toList)
    (hp : ∀ m, t.way? p = some m → t.node? m = some .directory)
    (hw : t.writable (p.join name) = .ok (l, old, x)) : Path.IsName name := by
  have hdir := node?_ne_directory_of_writable hw
  obtain ⟨hl, -⟩ := writable_cases hw
  have habs : (Path.mk name).isAbsolute = false := Path.isAbsolute_of_not_mem hslash
  rw [locate_eq (text_ne_empty_of_locate hl), Path.base_join _ _ habs, Path.names_join p habs,
    Path.names_of_not_mem hempty hslash] at hl
  obtain ⟨m, hm, hl⟩ := walk?_of_follow (List.cons_ne_nil _ _) hl
  have hmdir : t.node? m = some .directory := hp m hm
  refine ⟨hempty, hslash, ?_, ?_⟩
  · rintro rfl
    rw [follow_dot, follow, Except.ok.injEq] at hl
    exact hdir (hl ▸ hmdir)
  · rintro rfl
    rw [follow_up, follow, Except.ok.injEq] at hl
    exact hdir (hl ▸ h.node?_dropLast hmdir)

theorem set_of_locate (h : Grown t) (hbase : t.HasBase p) (hl : t.locate p = .ok l) (hn : t.node? l ≠ some .directory)
    (n : FileNode) : Grown (t.set l n) := by
  obtain ⟨m, name, rfl, hname, hm⟩ := h.parent_of_locate hbase hl hn
  exact h.set hm hname (.inr hn)

theorem writes_set (h : Grown t) (hbase : t.HasBase p) (hl : t.locate p = .ok l) (hn : t.node? l ≠ some .directory)
    (content : Bytes) (x : Bool) : Writes l t (t.set l (.file content x)) :=
  ⟨h.set_of_locate hbase hl hn _, sameDirectories_set_file hn,
    ⟨content, x, node?_set_self (ne_nil_of_node?_ne hn)⟩, fun _ hl' => node?_set_of_ne hl'⟩

theorem writes_of_write (h : Grown t) (hbase : t.HasBase p) (hu : t.write p content = .ok u) :
    Writes (p.place t.workDir) t u := by
  obtain ⟨l, old, x, hw, rfl⟩ := write_eq_ok.mp hu
  have hl := (writable_cases hw).1
  rw [← eq_place_of_locate hl]
  exact h.writes_set hbase hl (node?_ne_directory_of_writable hw) content x

end Grown

end WebTestbed.FileTree
