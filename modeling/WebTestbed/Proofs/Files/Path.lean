import WebTestbed.Files.Path
import WebTestbed.Proofs.Text.Basic
import Mathlib.Data.List.Infix

/-! The names on paths, and the ends of paths. -/
namespace WebTestbed.Path

/-- A name that a file or a directory can have. -/
structure IsName (name : String) : Prop where
  ne_empty : name ≠ ""
  slash_not_mem : '/' ∉ name.toList
  ne_dot : name ≠ "."
  ne_up : name ≠ ".."

instance (name : String) : Decidable (IsName name) :=
  decidable_of_iff (name ≠ "" ∧ '/' ∉ name.toList ∧ name ≠ "." ∧ name ≠ "..")
    ⟨fun ⟨hempty, hslash, hdot, hup⟩ => ⟨hempty, hslash, hdot, hup⟩,
      fun ⟨hempty, hslash, hdot, hup⟩ => ⟨hempty, hslash, hdot, hup⟩⟩

theorem suffix_join (p q : Path) : q.text.toList <:+ (p.join q).text.toList := by
  unfold join
  split
  · exact List.suffix_rfl
  split
  · rw [String.toList_append]
    exact List.suffix_append _ _
  · rw [String.toList_append]
    exact List.suffix_append _ _

/-- A path that is joined to another ends as it does alone. -/
theorem getLast?_join (p : Path) {q : Path} (hq : q.text.toList ≠ []) :
    (p.join q).text.toList.getLast? = q.text.toList.getLast? := by
  obtain ⟨before, hjoin⟩ := suffix_join p q
  rw [← hjoin, List.getLast?_append, List.getLast?_eq_some_getLast hq, Option.some_or]

theorem endsInSlash_iff (p : Path) :
    p.endsInSlash = true ↔ p.text.toList.getLast? = some '/' := by
  rw [endsInSlash, String.endsWith_eq_endsWith_toSlice, String.Slice.endsWith_string_iff,
    String.copy_toSlice]
  exact List.singleton_suffix_iff_getLast?_eq_some

theorem endsInSlash_join (p : Path) {q : Path} (hq : q.text.toList ≠ []) :
    (p.join q).endsInSlash = q.endsInSlash := by
  rw [Bool.eq_iff_iff, endsInSlash_iff, endsInSlash_iff, getLast?_join p hq]

theorem isAbsolute_iff (p : Path) : p.isAbsolute = true ↔ p.text.toList.head? = some '/' := by
  rw [isAbsolute, String.startsWith_eq_startsWith_toSlice, String.Slice.startsWith_string_iff,
    String.copy_toSlice]
  exact List.singleton_prefix_iff_head?_eq_some

/-- The second path stands behind the first, with a slash between them if the first is not empty and
has none at its end. -/
theorem toList_join (p : Path) {q : Path} (hq : q.isAbsolute = false) :
    (p.join q).text.toList = p.text.toList ++ q.text.toList ∧
        (p.text.toList = [] ∨ p.text.toList.getLast? = some '/') ∨
      (p.join q).text.toList = p.text.toList ++ '/' :: q.text.toList ∧ p.text.toList ≠ [] := by
  have hslash : p.text.endsWith "/" = true ↔ p.text.toList.getLast? = some '/' := endsInSlash_iff p
  unfold join
  rw [if_neg (by simp [hq])]
  by_cases hp : (p.text.isEmpty || p.text.endsWith "/") = true
  · left
    rw [if_pos hp, String.toList_append]
    rw [Bool.or_eq_true, String.isEmpty_iff, hslash, ← String.toList_eq_nil_iff] at hp
    exact ⟨rfl, hp⟩
  · right
    rw [if_neg hp, String.toList_append, String.toList_append, List.append_assoc]
    rw [Bool.or_eq_true, String.isEmpty_iff, not_or, ← String.toList_eq_nil_iff] at hp
    exact ⟨rfl, hp.1⟩

theorem isAbsolute_join (p : Path) {q : Path} (hq : q.isAbsolute = false) :
    (p.join q).isAbsolute = p.isAbsolute := by
  have hhead : q.text.toList.head? ≠ some '/' := by
    rw [Ne, ← isAbsolute_iff, hq]
    exact Bool.false_ne_true
  rw [Bool.eq_iff_iff, isAbsolute_iff, isAbsolute_iff]
  obtain ⟨hjoin, hp⟩ | ⟨hjoin, hp⟩ := toList_join p hq <;> rw [hjoin]
  · cases hl : p.text.toList with
    | nil => simpa using hhead
    | cons c r => rfl
  · cases hl : p.text.toList with
    | nil => exact absurd hl hp
    | cons c r => rfl

/-- The names on a path, as characters. -/
def namesFrom (s : List Char) : List (List Char) :=
  (Text.pieces '/' s).filter (!·.isEmpty)

theorem names_eq (p : Path) : p.names = (namesFrom p.text.toList).map String.ofList := by
  rw [names, Text.piecesString, namesFrom, List.filter_map]
  congr 1
  refine List.filter_congr fun s _ => ?_
  have hempty : (String.ofList s).isEmpty = s.isEmpty := by
    rw [Bool.eq_iff_iff, String.isEmpty_iff, List.isEmpty_iff, String.ofList_eq_empty_iff]
  exact congrArg not hempty

theorem namesFrom_append_slash (a b : List Char) :
    namesFrom (a ++ '/' :: b) = namesFrom a ++ namesFrom b := by
  rw [namesFrom, Text.pieces_append, List.filter_append]
  rfl

theorem names_join (p : Path) {q : Path} (hq : q.isAbsolute = false) :
    (p.join q).names = p.names ++ q.names := by
  simp only [names_eq, ← List.map_append]
  congr 1
  obtain ⟨hjoin, hp | hp⟩ | ⟨hjoin, -⟩ := toList_join p hq <;> rw [hjoin]
  · rw [hp]
    rfl
  · obtain ⟨a, ha⟩ := List.getLast?_eq_some_iff.mp hp
    rw [ha, List.append_assoc, List.singleton_append, namesFrom_append_slash,
      namesFrom_append_slash]
    simp [namesFrom, Text.pieces]
  · exact namesFrom_append_slash _ _

theorem ne_empty_and_slash_not_mem_of_mem_names {p : Path} {name : String} (h : name ∈ p.names) :
    name ≠ "" ∧ '/' ∉ name.toList := by
  rw [names_eq, List.mem_map] at h
  obtain ⟨s, hs, rfl⟩ := h
  rw [namesFrom, List.mem_filter] at hs
  obtain ⟨hs, hne⟩ := hs
  refine ⟨?_, ?_⟩
  · rw [Ne, String.ofList_eq_empty_iff]
    simpa using hne
  · rw [String.toList_ofList]
    exact Text.not_mem_of_mem_pieces hs

theorem isAbsolute_of_not_mem {name : String} (h : '/' ∉ name.toList) :
    (Path.mk name).isAbsolute = false := by
  rw [Bool.eq_false_iff, Ne, isAbsolute_iff]
  intro hhead
  exact h (List.mem_of_mem_head? hhead)

namespace IsName

variable {name : String}

theorem isAbsolute_eq (h : IsName name) : (Path.mk name).isAbsolute = false :=
  isAbsolute_of_not_mem h.slash_not_mem

theorem endsInSlash_eq (h : IsName name) : (Path.mk name).endsInSlash = false := by
  rw [Bool.eq_false_iff, Ne, endsInSlash_iff]
  intro hlast
  exact h.slash_not_mem (List.mem_of_getLast? hlast)

end IsName

/-- Names with slashes between them are the names on the path that they make. -/
theorem names_joinWith {l : List String} (h : ∀ name ∈ l, name ≠ "" ∧ '/' ∉ name.toList) :
    (Path.mk (Text.joinWith "/" l)).names = l := by
  rw [names]
  by_cases hl : l = []
  · subst hl
    decide
  · rw [Text.piecesString_joinWith rfl hl fun s hs => (h s hs).2, List.filter_eq_self]
    intro s hs
    simpa [String.isEmpty_iff] using (h s hs).1

theorem names_of_not_mem {name : String} (hempty : name ≠ "") (hslash : '/' ∉ name.toList) :
    (Path.mk name).names = [name] := by
  have h := names_joinWith (l := [name]) fun s hs => by
    rw [List.mem_singleton.mp hs]
    exact ⟨hempty, hslash⟩
  exact h

/-- A path ends in a name that ends as its text does. -/
theorem exists_names_eq_append {ending : String} (hne : ending ≠ "") (hslash : '/' ∉ ending.toList)
    (s : String) : ∃ r last, (Path.mk (s ++ ending)).names = r ++ [last] ∧
      ending.toList <:+ last.toList := by
  have hlast : ∀ a, '/' ∉ a → namesFrom (a ++ ending.toList) = [a ++ ending.toList] := by
    intro a ha
    have hempty : a ++ ending.toList ≠ [] :=
      List.append_ne_nil_of_right_ne_nil a (mt String.toList_eq_nil_iff.mp hne)
    rw [namesFrom, Text.pieces_of_not_mem (by simp [ha, hslash])]
    simpa using hempty
  rw [names_eq, String.toList_append]
  by_cases hs : '/' ∈ s.toList
  · -- the name begins behind the last slash before the ending
    obtain ⟨b, a, hs, hb⟩ := List.eq_append_cons_of_mem (List.mem_reverse.mpr hs)
    have hs' : s.toList = a.reverse ++ '/' :: b.reverse := by
      rw [← List.reverse_reverse s.toList, hs]
      simp
    rw [hs', List.append_assoc, List.cons_append, namesFrom_append_slash,
      hlast _ (by rwa [List.mem_reverse]), List.map_append]
    exact ⟨_, _, rfl, by simp⟩
  · rw [hlast _ hs]
    exact ⟨[], _, rfl, by simp⟩

end WebTestbed.Path
