import WebTestbed.Proofs.Files.Path
import WebTestbed.Proofs.Files.FileTree

/-! Where paths lead: their names alone tell the place, and the directories on the way whether there
is a way to it. -/
namespace WebTestbed

/-- Where names lead to from a location, whatever is on the way. -/
def resolve (start : Location) : List String → Location
  | [] => start
  | name :: r =>
    if name = "." then resolve start r
    else if name = ".." then resolve start.dropLast r
    else resolve (start ++ [name]) r

theorem resolve_append (start : Location) (a b : List String) :
    resolve start (a ++ b) = resolve (resolve start a) b := by
  fun_induction resolve start a with
  | case1 start => rfl
  | case2 start r ih => rw [List.cons_append, resolve, if_pos rfl, ih]
  | case3 start r hdot ih => rw [List.cons_append, resolve, if_neg hdot, if_pos rfl, ih]
  | case4 start name r hdot hup ih =>
    rw [List.cons_append, resolve, if_neg hdot, if_neg hup, ih]

theorem resolve_name {name : String} (hn : Path.IsName name) (start : Location) :
    resolve start [name] = start ++ [name] := by
  rw [resolve, if_neg hn.ne_dot, if_neg hn.ne_up, resolve]

namespace Path

/-- Where the names of a path start from. -/
def base (workDir : Location) (p : Path) : Location :=
  if p.isAbsolute then [] else workDir

/-- The location that a path names wherever it names one. -/
def place (workDir : Location) (p : Path) : Location :=
  resolve (p.base workDir) p.names

variable {name : String} (workDir : Location) (p : Path)

theorem IsName.names_eq (hn : IsName name) : (Path.mk name).names = [name] :=
  names_of_not_mem hn.ne_empty hn.slash_not_mem

theorem base_join {q : Path} (hq : q.isAbsolute = false) :
    (p.join q).base workDir = p.base workDir := by
  rw [base, base, isAbsolute_join p hq]

theorem names_join_name (hn : IsName name) : (p.join name).names = p.names ++ [name] := by
  rw [names_join p hn.isAbsolute_eq, hn.names_eq]

@[simp] theorem place_join (hn : IsName name) :
    (p.join name).place workDir = p.place workDir ++ [name] := by
  rw [place, base_join workDir p hn.isAbsolute_eq, names_join_name p hn, resolve_append,
    resolve_name hn, place]

theorem text_join_ne_empty {q : Path} (hq : q.text ≠ "") : (p.join q).text ≠ "" := by
  intro h
  have hsuffix := suffix_join p q
  rw [h] at hsuffix
  exact hq (String.toList_eq_nil_iff.mp (List.suffix_nil.mp hsuffix))

end Path

namespace FileTree

variable {t u : FileTree} {p : Path} {name : String} {start l m : Location} {a b : List String}

/-- Where names lead to through directories only. -/
def walk? (t : FileTree) (start : Location) : List String → Option Location
  | [] => some start
  | name :: r =>
    if name = "." then t.walk? start r
    else if name = ".." then t.walk? start.dropLast r
    else if t.node? (start ++ [name]) = some .directory then t.walk? (start ++ [name]) r
    else none

/-- Where a path leads to through directories only. -/
def way? (t : FileTree) (p : Path) : Option Location :=
  t.walk? (p.base t.workDir) p.names

theorem walk?_append (t : FileTree) (start : Location) (a b : List String) :
    t.walk? start (a ++ b) = (t.walk? start a).bind fun m => t.walk? m b := by
  fun_induction t.walk? start a with
  | case1 start => rfl
  | case2 start r ih => rw [List.cons_append, walk?, if_pos rfl, ih]
  | case3 start r hdot ih => rw [List.cons_append, walk?, if_neg hdot, if_pos rfl, ih]
  | case4 start name r hdot hup hn ih =>
    rw [List.cons_append, walk?, if_neg hdot, if_neg hup, if_pos hn, ih]
  | case5 start name r hdot hup hn =>
    rw [List.cons_append, walk?, if_neg hdot, if_neg hup, if_neg hn]
    rfl

theorem walk?_name (hn : Path.IsName name) (t : FileTree) (start : Location) :
    t.walk? start [name] =
      if t.node? (start ++ [name]) = some .directory then some (start ++ [name]) else none := by
  rw [walk?, if_neg hn.ne_dot, if_neg hn.ne_up, walk?]

theorem follow_append (h : t.walk? start a = some m) :
    follow t start (a ++ b) = follow t m b := by
  fun_induction t.walk? start a with
  | case1 start => rw [Option.some.inj h, List.nil_append]
  | case2 start r ih => rw [List.cons_append, follow_dot, ih h]
  | case3 start r _ ih => rw [List.cons_append, follow_up, ih h]
  | case4 start name r hdot hup hn ih =>
    rw [List.cons_append, follow_cons_of_directory hdot hup hn, ih h]
  | case5 => cases h

/-- All but the last of the names that are followed are those of directories. -/
theorem walk?_of_follow (hb : b ≠ []) (h : follow t start (a ++ b) = .ok l) :
    ∃ m, t.walk? start a = some m ∧ follow t m b = .ok l := by
  fun_induction t.walk? start a with
  | case1 start => exact ⟨start, rfl, h⟩
  | case2 start r ih =>
    rw [List.cons_append, follow_dot] at h
    exact ih h
  | case3 start r _ ih =>
    rw [List.cons_append, follow_up] at h
    exact ih h
  | case4 start name r hdot hup hn ih =>
    rw [List.cons_append, follow_cons_of_directory hdot hup hn] at h
    exact ih h
  | case5 start name r hdot hup hn =>
    rw [List.cons_append, follow_cons_of_not_directory hdot hup hn] at h
    exact absurd (List.append_eq_nil_iff.mp h.1).2 hb

/-- Names that lead to a directory lead there through directories only. -/
theorem walk?_of_follow_directory (h : follow t start a = .ok l)
    (hl : t.node? l = some .directory) : t.walk? start a = some l := by
  fun_induction t.walk? start a with
  | case1 start =>
    rw [follow, Except.ok.injEq] at h
    rw [h]
  | case2 start r ih =>
    rw [follow_dot] at h
    exact ih h
  | case3 start r _ ih =>
    rw [follow_up] at h
    exact ih h
  | case4 start name r hdot hup hn ih =>
    rw [follow_cons_of_directory hdot hup hn] at h
    exact ih h
  | case5 start name r hdot hup hn =>
    rw [follow_cons_of_not_directory hdot hup hn] at h
    exact absurd (h.2 ▸ hl) hn

theorem eq_resolve_of_walk? (h : t.walk? start a = some l) : l = resolve start a := by
  fun_induction t.walk? start a with
  | case1 start => exact (Option.some.inj h).symm
  | case2 start r ih =>
    rw [resolve, if_pos rfl]
    exact ih h
  | case3 start r hdot ih =>
    rw [resolve, if_neg hdot, if_pos rfl]
    exact ih h
  | case4 start name r hdot hup _ ih =>
    rw [resolve, if_neg hdot, if_neg hup]
    exact ih h
  | case5 => cases h

theorem eq_resolve_of_follow (h : follow t start a = .ok l) : l = resolve start a := by
  fun_induction resolve start a with
  | case1 start => exact (Except.ok.inj h).symm
  | case2 start r ih =>
    rw [follow_dot] at h
    exact ih h
  | case3 start r _ ih =>
    rw [follow_up] at h
    exact ih h
  | case4 start name r hdot hup ih =>
    by_cases hn : t.node? (start ++ [name]) = some .directory
    · rw [follow_cons_of_directory hdot hup hn] at h
      exact ih h
    · rw [follow_cons_of_not_directory hdot hup hn] at h
      obtain ⟨rfl, rfl⟩ := h
      rfl

theorem eq_place_of_way? (h : t.way? p = some l) : l = p.place t.workDir :=
  eq_resolve_of_walk? h

theorem locate_eq (hp : p.text ≠ "") :
    t.locate p = follow t (p.base t.workDir) p.names := by
  rw [locate, if_neg (by rwa [String.isEmpty_iff])]
  rfl

theorem text_ne_empty_of_locate (h : t.locate p = .ok l) : p.text ≠ "" := by
  intro hp
  rw [locate, if_pos (String.isEmpty_iff.mpr hp)] at h
  cases h

theorem eq_place_of_locate (h : t.locate p = .ok l) : l = p.place t.workDir := by
  rw [locate_eq (text_ne_empty_of_locate h)] at h
  exact eq_resolve_of_follow h

theorem way?_join (hn : Path.IsName name) (t : FileTree) (p : Path) :
    t.way? (p.join name) = (t.way? p).bind fun m =>
      if t.node? (m ++ [name]) = some .directory then some (m ++ [name]) else none := by
  rw [way?, way?, Path.base_join _ _ hn.isAbsolute_eq, Path.names_join_name p hn, walk?_append]
  congr 1
  funext m
  exact walk?_name hn t m

theorem way?_join_eq_some (hn : Path.IsName name) :
    t.way? (p.join name) = some l ↔
      ∃ m, t.way? p = some m ∧ l = m ++ [name] ∧ t.node? l = some .directory := by
  rw [way?_join hn, Option.bind_eq_some_iff]
  refine exists_congr fun m => and_congr_right fun _ => ?_
  by_cases hm : t.node? (m ++ [name]) = some .directory
  · rw [if_pos hm, Option.some.injEq]
    exact ⟨fun h => ⟨h.symm, h ▸ hm⟩, fun h => h.1.symm⟩
  · rw [if_neg hm]
    exact ⟨fun h => (nomatch h), fun h => absurd (h.1 ▸ h.2) hm⟩

/-- There is a place for a name where there is a way to the directory that it is in. -/
theorem locate_join_eq_ok (hn : Path.IsName name) :
    t.locate (p.join name) = .ok l ↔ ∃ m, t.way? p = some m ∧ l = m ++ [name] := by
  have htext : (p.join name).text ≠ "" := p.text_join_ne_empty hn.ne_empty
  have hlast : ∀ m, follow t m [name] = .ok (m ++ [name]) := by
    intro m
    by_cases hm : t.node? (m ++ [name]) = some .directory
    · rw [follow_cons_of_directory hn.ne_dot hn.ne_up hm, follow]
    · exact (follow_cons_of_not_directory hn.ne_dot hn.ne_up hm).mpr ⟨rfl, rfl⟩
  rw [locate_eq htext, Path.base_join _ _ hn.isAbsolute_eq, Path.names_join_name p hn]
  constructor
  · intro h
    obtain ⟨m, hm, hl⟩ := walk?_of_follow (List.cons_ne_nil _ _) h
    rw [hlast, Except.ok.injEq] at hl
    exact ⟨m, hm, hl.symm⟩
  · rintro ⟨m, hm, rfl⟩
    rw [follow_append hm, hlast]

theorem find_eq_ok_directory :
    t.find p = .ok (l, .directory) ↔
      p.text ≠ "" ∧ t.way? p = some l ∧ t.node? l = some .directory := by
  constructor
  · intro h
    obtain ⟨l₀, hl, h⟩ := bind_eq_ok_iff.mp h
    have htext := text_ne_empty_of_locate hl
    cases hn : t.node? l₀ with
    | none => simp [hn] at h
    | some n =>
      cases n with
      | directory =>
        obtain rfl : l₀ = l := by simpa [hn, pure, Except.pure] using h
        rw [locate_eq htext] at hl
        exact ⟨htext, walk?_of_follow_directory hl hn, hn⟩
      | file content x =>
        cases hslash : p.endsInSlash <;> simp [hn, hslash, pure, Except.pure] at h
  · rintro ⟨htext, hway, hn⟩
    have hl : t.locate p = .ok l := by
      rw [locate_eq htext, ← List.append_nil p.names, follow_append hway, follow]
    simp [find, hl, hn, bind, Except.bind, pure, Except.pure]

theorem isDirectory_iff :
    t.isDirectory p = true ↔
      p.text ≠ "" ∧ ∃ l, t.way? p = some l ∧ t.node? l = some .directory := by
  constructor
  · intro h
    cases hf : t.find p with
    | error e => simp [isDirectory, found?, hf] at h
    | ok r =>
      obtain ⟨l, n⟩ := r
      cases n with
      | directory =>
        obtain ⟨htext, hway, hn⟩ := find_eq_ok_directory.mp hf
        exact ⟨htext, l, hway, hn⟩
      | file content x => simp [isDirectory, found?, hf, FileNode.isDirectory] at h
  · rintro ⟨htext, l, hway, hn⟩
    rw [isDirectory, found?, find_eq_ok_directory.mpr ⟨htext, hway, hn⟩]
    rfl

theorem isDirectory_join_iff (hn : Path.IsName name) :
    t.isDirectory (p.join name) = true ↔ ∃ l, t.way? (p.join name) = some l := by
  rw [isDirectory_iff]
  constructor
  · rintro ⟨-, l, hl, -⟩
    exact ⟨l, hl⟩
  · rintro ⟨l, hl⟩
    obtain ⟨m, -, rfl, hdir⟩ := (way?_join_eq_some hn).mp hl
    exact ⟨p.text_join_ne_empty hn.ne_empty, _, hl, hdir⟩

end FileTree

end WebTestbed
