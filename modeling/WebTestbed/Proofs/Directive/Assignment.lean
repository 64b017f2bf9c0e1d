import WebTestbed.Proofs.Directive.Merge
import WebTestbed.Proofs.Files.FileTree
import WebTestbed.Proofs.Text.Basic

/-! Extras made of assignments: which texts are assignments, and what each adds to its key. -/
namespace WebTestbed.Extras

/-- A text with an equals sign, and something other than blanks before the first. -/
def IsAssignment (s : String) : Prop :=
  ∃ key directive, s.toList = key ++ '=' :: directive ∧ '=' ∉ key ∧
    ∃ c ∈ key, Text.isBlank c = false

/-- The text gives the directive to the key: they stand before and after its first equals sign,
without the blanks around them. The key is not empty. -/
def Assigns (s key directive : String) : Prop :=
  ∃ before after, s.toList = before ++ '=' :: after ∧ '=' ∉ before ∧
    key = Text.trimmed (String.ofList before) ∧ key.isEmpty = false ∧
    directive = Text.trimmed (String.ofList after)

/-- The text of the fault is the first that is no assignment. -/
def FirstInvalid (texts : List String) (fault : InvalidAssignment) : Prop :=
  ∃ before after, texts = before ++ fault.text :: after ∧ (∀ s ∈ before, IsAssignment s) ∧
    ¬ IsAssignment fault.text

/-- The directive that an assignment gives to a key. -/
def directiveFor? (key s : String) : Option String :=
  match readAssignment s with
  | .ok (k, directive) => if k = key then some directive else none
  | .error _ => none

theorem isEmpty_trimmed_ofList (s : List Char) :
    (Text.trimmed (String.ofList s)).isEmpty = true ↔ ¬ ∃ c ∈ s, Text.isBlank c = false := by
  have htrim : (Text.trimmed (String.ofList s)).isEmpty = true ↔ Text.trim s = [] := by
    simp [Text.trimmed]
  rw [htrim, Text.trim_eq_nil_iff]
  simp

theorem readAssignment_eq_ok_iff {s key directive : String} :
    readAssignment s = .ok (key, directive) ↔ Assigns s key directive := by
  unfold readAssignment Text.cutString
  constructor
  · intro h
    cases hcut : Text.cut '=' s.toList with
    | none =>
      rw [hcut] at h
      cases h
    | some p =>
      obtain ⟨hs, hbefore⟩ := Text.cut_eq_some hcut
      simp only [hcut, Option.map_some] at h
      by_cases hkey : (Text.trimmed (String.ofList p.1)).isEmpty = true
      · rw [if_pos hkey] at h
        cases h
      · rw [if_neg hkey, Except.ok.injEq, Prod.mk.injEq] at h
        obtain ⟨rfl, rfl⟩ := h
        exact ⟨p.1, p.2, hs, hbefore, rfl, Bool.eq_false_iff.mpr hkey, rfl⟩
  · rintro ⟨before, after, hs, hbefore, rfl, hkey, rfl⟩
    simp only [hs, Text.cut_append hbefore, Option.map_some, hkey, Bool.false_eq_true, if_false]

theorem isAssignment_iff {s : String} :
    IsAssignment s ↔ ∃ key directive, Assigns s key directive := by
  constructor
  · rintro ⟨before, after, hs, hbefore, hc⟩
    have hkey : (Text.trimmed (String.ofList before)).isEmpty = false := by
      rwa [Bool.eq_false_iff, ne_eq, isEmpty_trimmed_ofList, not_not]
    exact ⟨_, _, before, after, hs, hbefore, rfl, hkey, rfl⟩
  · rintro ⟨key, directive, before, after, hs, hbefore, rfl, hkey, -⟩
    rw [Bool.eq_false_iff, ne_eq, isEmpty_trimmed_ofList, not_not] at hkey
    exact ⟨before, after, hs, hbefore, hkey⟩

/-- The fault has the whole text. -/
theorem eq_of_readAssignment {s : String} {fault : InvalidAssignment}
    (h : readAssignment s = .error fault) : fault = ⟨s⟩ := by
  unfold readAssignment at h
  split at h
  · exact (Except.error.inj h).symm
  · split at h
    · exact (Except.error.inj h).symm
    · cases h

theorem readAssignment_cases (s : String) :
    (IsAssignment s ∧ ∃ a, readAssignment s = .ok a) ∨
      (¬ IsAssignment s ∧ readAssignment s = .error ⟨s⟩) := by
  cases hr : readAssignment s with
  | ok a => exact .inl ⟨isAssignment_iff.mpr ⟨a.1, a.2, readAssignment_eq_ok_iff.mp hr⟩, a, rfl⟩
  | error fault =>
    rw [eq_of_readAssignment hr]
    refine .inr ⟨fun hs => ?_, rfl⟩
    obtain ⟨key, directive, hs⟩ := isAssignment_iff.mp hs
    rw [readAssignment_eq_ok_iff.mpr hs] at hr
    cases hr

theorem assign_of_not_isAssignment {s : String} (h : ¬ IsAssignment s) (x : Extras) :
    x.assign s = .error ⟨s⟩ := by
  obtain ⟨hs, -⟩ | ⟨-, hr⟩ := readAssignment_cases s
  · exact absurd hs h
  · rw [assign, hr]
    rfl

theorem assign_of_assigns {s key directive : String} (h : Assigns s key directive) (x : Extras) :
    x.assign s = .ok (x.append key [directive]) := by
  rw [assign, readAssignment_eq_ok_iff.mpr h]
  rfl

/-- An assignment adds its directive to what its key has. -/
theorem assign_of_isAssignment {s : String} (h : IsAssignment s) (x : Extras) :
    ∃ y, x.assign s = .ok y ∧ ∀ key, directivesOf (some y) key =
      directivesOf (some x) key ++ (directiveFor? key s).toList := by
  obtain ⟨k, directive, h⟩ := isAssignment_iff.mp h
  refine ⟨x.append k [directive], assign_of_assigns h x, fun key => ?_⟩
  unfold directiveFor?
  rw [readAssignment_eq_ok_iff.mpr h]
  by_cases hk : k = key
  · subst hk
    simp [directivesOf]
  · simp [directivesOf, get?_append_of_ne (Ne.symm hk), hk]

/-- Assignments are all made, and add their directives to their keys in their order. -/
theorem foldlM_assign {texts : List String} (h : ∀ s ∈ texts, IsAssignment s) (x : Extras) :
    ∃ y, texts.foldlM assign x = .ok y ∧ ∀ key, directivesOf (some y) key =
      directivesOf (some x) key ++ texts.filterMap (directiveFor? key) := by
  induction texts generalizing x with
  | nil => exact ⟨x, rfl, fun key => (List.append_nil _).symm⟩
  | cons s texts ih =>
    obtain ⟨hs, htexts⟩ := List.forall_mem_cons.mp h
    obtain ⟨y, hy, hkeys⟩ := assign_of_isAssignment hs x
    obtain ⟨z, hz, hkeys'⟩ := ih htexts y
    refine ⟨z, ?_, fun key => ?_⟩
    · rw [List.foldlM_cons, hy]
      exact hz
    · rw [hkeys', hkeys, List.append_assoc, List.filterMap_cons]
      cases directiveFor? key s <;> rfl

theorem exists_firstInvalid {texts : List String} (h : ¬ ∀ s ∈ texts, IsAssignment s) :
    ∃ fault, FirstInvalid texts fault := by
  induction texts with
  | nil => exact absurd (by simp) h
  | cons s texts ih =>
    by_cases hs : IsAssignment s
    · have htexts : ¬ ∀ s ∈ texts, IsAssignment s := fun ht =>
        h (List.forall_mem_cons.mpr ⟨hs, ht⟩)
      obtain ⟨fault, before, after, rfl, hbefore, hfault⟩ := ih htexts
      exact ⟨fault, s :: before, after, rfl, List.forall_mem_cons.mpr ⟨hs, hbefore⟩, hfault⟩
    · exact ⟨⟨s⟩, [], texts, rfl, by simp, hs⟩

theorem ofAssignments_of_firstInvalid {texts : List String} {fault : InvalidAssignment}
    (h : FirstInvalid texts fault) : ofAssignments texts = .error fault := by
  obtain ⟨before, after, rfl, hbefore, hfault⟩ := h
  obtain ⟨y, hy, -⟩ := foldlM_assign hbefore empty
  rw [ofAssignments, List.foldlM_append, hy]
  change (fault.text :: after).foldlM assign y = _
  rw [List.foldlM_cons, assign_of_not_isAssignment hfault]
  rfl

/-- Texts are refused if one is no assignment, and the first such is told. -/
theorem ofAssignments_eq_error_iff {texts : List String} {fault : InvalidAssignment} :
    ofAssignments texts = .error fault ↔ FirstInvalid texts fault := by
  refine ⟨fun h => ?_, ofAssignments_of_firstInvalid⟩
  by_cases hall : ∀ s ∈ texts, IsAssignment s
  · obtain ⟨y, hy, -⟩ := foldlM_assign hall empty
    rw [ofAssignments, hy] at h
    cases h
  · obtain ⟨first, hfirst⟩ := exists_firstInvalid hall
    rw [ofAssignments_of_firstInvalid hfirst] at h
    cases h
    exact hfirst

theorem ofAssignments_eq_ok {texts : List String} (h : ∀ s ∈ texts, IsAssignment s) :
    ∃ x, ofAssignments texts = .ok x ∧
      ∀ key, directivesOf (some x) key = texts.filterMap (directiveFor? key) :=
  foldlM_assign h empty

/-- Extras without keys are as good as none. -/
theorem directivesOf_ite_isEmpty (x : Extras) (key : String) :
    directivesOf (if x.isEmpty then none else some x) key = directivesOf (some x) key := by
  by_cases h : x.isEmpty = true
  · have hentries : x.entries = [] := List.isEmpty_iff.mp h
    rw [if_pos h, directivesOf_none]
    simp [directivesOf, get?, hentries]
  · rw [if_neg h]

end WebTestbed.Extras
