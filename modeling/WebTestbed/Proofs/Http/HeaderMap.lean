import WebTestbed.Proofs.Http.Headers
import Mathlib.Data.List.Forall2
import Mathlib.Data.Finset.Card

/-! Header fields that are collected: each name in lower case stands where it first appeared, and
has the value that it was given last, whatever the case of the name that it was given by. -/
namespace WebTestbed

/-- Texts that are equal, but that letters of ASCII may differ in case. -/
def Text.SameButCase (s t : String) : Prop :=
  List.Forall₂ (fun c d => c.toLower = d.toLower) s.toList t.toList

theorem Text.sameButCase_iff {s t : String} :
    SameButCase s t ↔ lowercase s = lowercase t := by
  unfold SameButCase
  rw [← String.toList_inj, toList_lowercase, toList_lowercase, ← List.forall₂_eq_eq_eq,
    List.forall₂_map_left_iff, List.forall₂_map_right_iff]

instance (s t : String) : Decidable (Text.SameButCase s t) :=
  decidable_of_iff _ Text.sameButCase_iff.symm

theorem Text.isUpper_toLower (c : Char) : c.toLower.isUpper = false := by
  have h := toNat_toLower c
  have hrange : ¬ (65 ≤ c.toLower.toNat ∧ c.toLower.toNat ≤ 90) := by
    rw [h]
    split <;> omega
  exact decide_eq_false hrange

namespace Http.Headers
open Text

/-- The fields given one after the other. -/
def ofFields (fields : List (String × String)) : Headers :=
  fields.foldl (fun h e => h.insert e.1 e.2) empty

/-- The names, in their order. -/
def names (h : Headers) : List String :=
  h.entries.map Prod.fst

theorem ofFields_append_singleton (fields : List (String × String)) (e : String × String) :
    ofFields (fields ++ [e]) = (ofFields fields).insert e.1 e.2 := by
  rw [ofFields, List.foldl_append]
  rfl

theorem get?_insert (h : Headers) (name value query : String) :
    (h.insert name value).get? query =
      if SameButCase name query then some value else h.get? query := by
  rw [get?, insert, assign_eq_putAt, lookup_putAt]
  simp only [sameButCase_iff, eq_comm]
  rfl

theorem names_insert (h : Headers) (name value : String) :
    (h.insert name value).names =
      if lowercase name ∈ h.names then h.names else h.names ++ [lowercase name] :=
  (congrArg (List.map Prod.fst) (assign_eq_putAt _ _ _)).trans (map_fst_putAt _ _ _)

theorem names_ofFields (fields : List (String × String)) :
    (ofFields fields).names = (fields.map fun e => lowercase e.1).eraseDups := by
  induction fields using List.reverseRecOn with
  | nil => rfl
  | append_singleton fields e ih =>
    rw [ofFields_append_singleton, names_insert, ih, List.map_append, List.eraseDups_append]
    by_cases h : lowercase e.1 ∈ fields.map fun e => lowercase e.1
    · simp [h, List.removeAll]
    · simp [h, List.removeAll, List.eraseDups_cons]

theorem nodup_names_ofFields (fields : List (String × String)) : (ofFields fields).names.Nodup := by
  induction fields using List.reverseRecOn with
  | nil => exact List.nodup_nil
  | append_singleton fields e ih =>
    rw [ofFields_append_singleton]
    rw [names, insert, assign_eq_putAt]
    exact nodup_putAt ih _ _

theorem get?_ofFields (fields : List (String × String)) (query : String) :
    (ofFields fields).get? query =
      (fields.reverse.find? fun e => SameButCase e.1 query).map Prod.snd := by
  induction fields using List.reverseRecOn with
  | nil => rfl
  | append_singleton fields e ih =>
    rw [ofFields_append_singleton, get?_insert, ih, List.reverse_append, List.reverse_singleton,
      List.singleton_append, List.find?_cons]
    by_cases h : SameButCase e.1 query
    · simp [h]
    · simp [h]

theorem lookup_eq_find? {l : List (String × String)} (h : ∀ e ∈ l, lowercase e.1 = e.1)
    (query : String) : l.lookup (lowercase query) =
      (l.find? fun e => SameButCase e.1 query).map Prod.snd := by
  induction l with
  | nil => rfl
  | cons d l ih =>
    obtain ⟨hd, hl⟩ := List.forall_mem_cons.mp h
    rw [List.lookup_cons, List.find?_cons, ih hl]
    by_cases hq : SameButCase d.1 query
    · have heq : lowercase query = d.1 := (sameButCase_iff.mp hq).symm.trans hd
      simp [hq, heq]
    · have hne : lowercase query ≠ d.1 := fun he => hq (sameButCase_iff.mpr (hd.trans he.symm))
      simp [hq, beq_false_of_ne hne]

theorem lowercase_of_mem_ofFields {fields : List (String × String)} {e : String × String}
    (h : e ∈ (ofFields fields).entries) : lowercase e.1 = e.1 := by
  have hname : e.1 ∈ (ofFields fields).names := List.mem_map_of_mem h
  rw [names_ofFields, List.mem_eraseDups] at hname
  obtain ⟨d, -, hd⟩ := List.mem_map.mp hname
  rw [← hd, lowercase_lowercase]

/-- A name has the value that was given last to a name that differs from it in case only. -/
theorem get?_ofFields_eq_some_iff {fields : List (String × String)} {query value : String} :
    (ofFields fields).get? query = some value ↔ ∃ before name after,
      fields = before ++ (name, value) :: after ∧ SameButCase name query ∧
      ∀ e ∈ after, ¬ SameButCase e.1 query := by
  rw [get?_ofFields, Option.map_eq_some_iff]
  simp only [List.find?_eq_some_iff_append, decide_eq_true_eq, Bool.not_eq_true',
    decide_eq_false_iff_not]
  constructor
  · rintro ⟨⟨name, _⟩, ⟨hname, after, before, hfields, hafter⟩, rfl⟩
    refine ⟨before.reverse, name, after.reverse, ?_, hname, by simpa using hafter⟩
    rw [← List.reverse_reverse fields, hfields]
    simp
  · rintro ⟨before, name, after, rfl, hname, hafter⟩
    exact ⟨(name, value), ⟨hname, after.reverse, before.reverse, by simp, by simpa using hafter⟩,
      rfl⟩

theorem get?_ofFields_eq_none_iff {fields : List (String × String)} {query : String} :
    (ofFields fields).get? query = none ↔ ∀ e ∈ fields, ¬ SameButCase e.1 query := by
  rw [get?_ofFields, Option.map_eq_none_iff, List.find?_eq_none]
  simp

theorem size_ofFields (fields : List (String × String)) :
    (ofFields fields).size = (fields.map fun e => lowercase e.1).toFinset.card := by
  have hset : (fields.map fun e => lowercase e.1).toFinset = (ofFields fields).names.toFinset := by
    ext name
    rw [List.mem_toFinset, List.mem_toFinset, names_ofFields, List.mem_eraseDups]
  rw [hset, List.toFinset_card_of_nodup (nodup_names_ofFields fields)]
  exact (List.length_map _).symm

/-- The case of the names does not matter. -/
theorem ofFields_congr {fields fields' : List (String × String)}
    (h : List.Forall₂ (fun e d => SameButCase e.1 d.1 ∧ e.2 = d.2) fields fields') :
    ofFields fields = ofFields fields' := by
  unfold ofFields
  generalize empty = start
  induction h generalizing start with
  | nil => rfl
  | cons he _ ih =>
    obtain ⟨hname, hvalue⟩ := he
    rw [List.foldl_cons, List.foldl_cons, insert, insert, sameButCase_iff.mp hname, hvalue]
    exact ih _

/-- Header fields that are collected: their names are distinct, in lower case and in the order of
first appearance; a name has the value that it was given last, by whatever case, which is also what
a search that ignores case finds; and the case of the names makes no difference. -/
theorem ofFields_last_wins (fields : List (String × String)) :
    (ofFields fields).names.Nodup ∧
    (∀ name ∈ (ofFields fields).names, ∀ c ∈ name.toList, c.isUpper = false) ∧
    (ofFields fields).names = (fields.map fun e => lowercase e.1).eraseDups ∧
    (∀ query,
      (∀ value, (ofFields fields).get? query = some value ↔ ∃ before name after,
        fields = before ++ (name, value) :: after ∧ SameButCase name query ∧
        ∀ e ∈ after, ¬ SameButCase e.1 query) ∧
      ((ofFields fields).get? query = none ↔ ∀ e ∈ fields, ¬ SameButCase e.1 query) ∧
      (ofFields fields).get? query =
        ((ofFields fields).entries.find? fun e => SameButCase e.1 query).map Prod.snd ∧
      (ofFields fields).contains query = ((ofFields fields).get? query).isSome) ∧
    (ofFields fields).size = (fields.map fun e => lowercase e.1).toFinset.card ∧
    ∀ fields', List.Forall₂ (fun e d => SameButCase e.1 d.1 ∧ e.2 = d.2) fields fields' →
      ofFields fields' = ofFields fields := by
  refine ⟨nodup_names_ofFields fields, ?_, names_ofFields fields,
    fun query => ⟨fun value => ?_, ?_, ?_, rfl⟩, size_ofFields fields,
    fun fields' h => (ofFields_congr h).symm⟩
  · intro name hname c hc
    rw [names_ofFields, List.mem_eraseDups] at hname
    obtain ⟨e, -, rfl⟩ := List.mem_map.mp hname
    rw [toList_lowercase] at hc
    obtain ⟨d, -, rfl⟩ := List.mem_map.mp hc
    exact isUpper_toLower d
  · exact get?_ofFields_eq_some_iff
  · exact get?_ofFields_eq_none_iff
  · exact lookup_eq_find? (fun e he => lowercase_of_mem_ofFields he) query

theorem ofFields_last_wins_replaced :
    List.Forall₂ (fun e d => SameButCase e.1 d.1 ∧ e.2 = d.2)
      [("Content-Type", "a"), ("É", "b"), ("content-TYPE", "c")]
      [("content-type", "a"), ("É", "b"), ("CONTENT-Type", "c")] ∧
    ofFields [("content-type", "a"), ("É", "b"), ("CONTENT-Type", "c")] =
      ofFields [("Content-Type", "a"), ("É", "b"), ("content-TYPE", "c")] ∧
    (ofFields [("Content-Type", "a"), ("É", "b"), ("content-TYPE", "c")]).entries =
      [("content-type", "c"), ("É", "b")] := by
  have h : List.Forall₂ (fun e d => SameButCase e.1 d.1 ∧ e.2 = d.2)
      [("Content-Type", "a"), ("É", "b"), ("content-TYPE", "c")]
      [("content-type", "a"), ("É", "b"), ("CONTENT-Type", "c")] :=
    .cons ⟨by decide +kernel, rfl⟩ (.cons ⟨by decide +kernel, rfl⟩
      (.cons ⟨by decide +kernel, rfl⟩ .nil))
  exact ⟨h, (ofFields_last_wins _).2.2.2.2.2 _ h, by decide +kernel⟩

end Http.Headers

end WebTestbed
