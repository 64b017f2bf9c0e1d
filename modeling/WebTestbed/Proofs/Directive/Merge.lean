import WebTestbed.Directive.Extras

/-! Extras that are merged: for each key the directives of one after those of the other, in whatever
order many extras are merged two by two. -/
namespace WebTestbed.Extras

variable {x : Extras} {key k : String} {f : Option (List String) → List String}
  {l : List (String × List String)}

section Update

/-- A key that is less than all others in a sorted list is not in it. -/
theorem lookup_of_forall_lt (h : ∀ e ∈ l, key < e.1) : l.lookup key = none := by
  rw [List.lookup_eq_none_iff]
  intro e he
  simpa using String.ne_of_lt (h e he)

theorem lookup_update_self (h : l.Pairwise fun a b => a.1 < b.1) :
    (update key f l).lookup key = some (f (l.lookup key)) := by
  induction l with
  | nil => simp [update]
  | cons e r ih =>
    obtain ⟨he, hr⟩ := List.pairwise_cons.mp h
    unfold update
    by_cases hk : key = e.1
    · rw [if_pos hk, List.lookup_cons_self, List.lookup_cons, hk, beq_self_eq_true]
    · have hne : (key == e.1) = false := beq_false_of_ne hk
      rw [if_neg hk]
      by_cases hlt : key < e.1
      · have hnone : (e :: r).lookup key = none := by
          refine lookup_of_forall_lt fun b hb => ?_
          obtain rfl | hb := List.mem_cons.mp hb
          · exact hlt
          · exact String.lt_trans hlt (he b hb)
        rw [if_pos hlt, List.lookup_cons_self, hnone]
      · rw [if_neg hlt, List.lookup_cons, List.lookup_cons, hne]
        exact ih hr

theorem lookup_update_of_ne (h : k ≠ key) : (update key f l).lookup k = l.lookup k := by
  have hk : (k == key) = false := beq_false_of_ne h
  induction l with
  | nil => simp [update, List.lookup_cons, hk]
  | cons e r ih =>
    unfold update
    by_cases he : key = e.1
    · rw [if_pos he, List.lookup_cons, List.lookup_cons, ← he, hk]
    · rw [if_neg he]
      by_cases hlt : key < e.1
      · rw [if_pos hlt, List.lookup_cons, hk]
      · rw [if_neg hlt, List.lookup_cons, List.lookup_cons, ih]

end Update

@[simp] theorem get?_empty (key : String) : empty.get? key = none := rfl

@[simp] theorem get?_append_self (x : Extras) (key : String) (directives : List String) :
    (x.append key directives).get? key = some ((x.get? key).getD [] ++ directives) :=
  lookup_update_self x.sorted

theorem get?_append_of_ne (h : k ≠ key) (x : Extras) (directives : List String) :
    (x.append key directives).get? k = x.get? k :=
  lookup_update_of_ne h

theorem get?_insert_of_ne (h : k ≠ key) (x : Extras) (directives : List String) :
    (x.insert key directives).get? k = x.get? k :=
  lookup_update_of_ne h

/-- What a key has after entries with distinct keys are added in their order. -/
theorem get?_foldl_append (h : l.Pairwise fun a b => a.1 < b.1) (x : Extras) (key : String) :
    (l.foldl (fun x e => x.append e.1 e.2) x).get? key =
      Option.merge (· ++ ·) (x.get? key) (l.lookup key) := by
  induction l generalizing x with
  | nil => simp
  | cons e r ih =>
    obtain ⟨he, hr⟩ := List.pairwise_cons.mp h
    rw [List.foldl_cons, ih hr, List.lookup_cons]
    by_cases hk : key = e.1
    · subst hk
      have hnone : r.lookup e.1 = none := lookup_of_forall_lt he
      rw [hnone, get?_append_self, beq_self_eq_true]
      cases x.get? e.1 <;> rfl
    · rw [get?_append_of_ne hk, beq_false_of_ne hk]

theorem get?_union (a b : Extras) (key : String) :
    (a.union b).get? key = Option.merge (· ++ ·) (a.get? key) (b.get? key) :=
  get?_foldl_append b.sorted a key

theorem mem_entries_iff {e : String × List String} : e ∈ x.entries ↔ x.get? e.1 = some e.2 := by
  obtain ⟨entries, sorted⟩ := x
  unfold get?
  induction entries with
  | nil => simp
  | cons a r ih =>
    obtain ⟨ha, hr⟩ := List.pairwise_cons.mp sorted
    rw [List.mem_cons, List.lookup_cons]
    by_cases hk : e.1 = a.1
    · have hr : e ∉ r := fun he => absurd hk.symm (String.ne_of_lt (ha e he))
      simp [hk, hr, Prod.ext_iff, eq_comm]
    · have hne : e ≠ a := fun he => hk (he ▸ rfl)
      simp only [hne, false_or, beq_false_of_ne hk]
      exact ih hr

/-- Extras are given by the directives of their keys. -/
theorem ext_get? {a b : Extras} (h : ∀ key, a.get? key = b.get? key) : a = b := by
  have hnodup : ∀ x : Extras, x.entries.Nodup := fun x => x.sorted.imp fun hab he => by
    simp [he] at hab
  have hperm : a.entries.Perm b.entries := by
    rw [List.perm_ext_iff_of_nodup (hnodup a) (hnodup b)]
    intro e
    rw [mem_entries_iff, mem_entries_iff, h]
  have hentries : a.entries = b.entries :=
    hperm.eq_of_pairwise (fun _ _ _ _ hab hba => absurd hba (String.lt_asymm hab)) a.sorted b.sorted
  cases a
  cases b
  congr

theorem union_assoc (a b c : Extras) : (a.union b).union c = a.union (b.union c) := by
  apply ext_get?
  intro key
  simp only [get?_union]
  cases a.get? key <;> cases b.get? key <;> cases c.get? key <;> simp

theorem merge_assoc (a b c : Option Extras) : merge (merge a b) c = merge a (merge b c) := by
  cases a <;> cases b <;> cases c <;> simp [merge, union_assoc]

theorem none_merge (a : Option Extras) : merge none a = a := by
  cases a <;> rfl

theorem merge_none (a : Option Extras) : merge a none = a := by
  cases a <;> rfl

/-- The directives of a key. Extras that are missing have none, nor has a key that is absent. -/
def directivesOf (x : Option Extras) (key : String) : List String :=
  (x.bind (·.get? key)).getD []

@[simp] theorem directivesOf_none (key : String) : directivesOf none key = [] := rfl

theorem directivesOf_merge (a b : Option Extras) (key : String) :
    directivesOf (merge a b) key = directivesOf a key ++ directivesOf b key := by
  cases a with
  | none => rw [none_merge]; rfl
  | some a =>
    cases b with
    | none => rw [merge_none]; exact (List.append_nil _).symm
    | some b =>
      change ((a.union b).get? key).getD [] = (a.get? key).getD [] ++ (b.get? key).getD []
      rw [get?_union]
      cases a.get? key <;> cases b.get? key <;> simp

theorem contains_union (a b : Extras) (key : String) :
    (a.union b).contains key = (a.contains key || b.contains key) := by
  unfold contains
  rw [get?_union]
  cases a.get? key <;> cases b.get? key <;> rfl

/-- Extras that are merged two by two. -/
inductive Merges where
  | one (x : Option Extras)
  | both (a b : Merges)

namespace Merges

def result : Merges → Option Extras
  | one x => x
  | both a b => merge a.result b.result

/-- The extras that are merged, from left to right. -/
def maps : Merges → List (Option Extras)
  | one x => [x]
  | both a b => a.maps ++ b.maps

theorem foldl_merge (x : Option Extras) (l : List (Option Extras)) :
    l.foldl merge x = merge x (l.foldl merge none) := by
  induction l generalizing x with
  | nil => exact (merge_none x).symm
  | cons y l ih => rw [List.foldl_cons, List.foldl_cons, ih, ih (merge none y), none_merge, merge_assoc]

/-- How the merges are bracketed makes no difference. -/
theorem result_eq_foldl (t : Merges) : t.result = t.maps.foldl merge none := by
  induction t with
  | one x => exact (none_merge x).symm
  | both a b iha ihb => rw [result, maps, List.foldl_append, foldl_merge, iha, ihb]

theorem directivesOf_result (t : Merges) (key : String) :
    directivesOf t.result key = t.maps.flatMap (directivesOf · key) := by
  induction t with
  | one x => exact (List.append_nil _).symm
  | both a b iha ihb => rw [result, maps, directivesOf_merge, iha, ihb, List.flatMap_append]

end Merges

/-- Merging is associative, extras that are missing change nothing, and each key has the directives
of all that are merged, in their order. A key without directives stays. -/
theorem merge_monoid :
    (∀ a b c, merge (merge a b) c = merge a (merge b c)) ∧
    (∀ a, merge none a = a ∧ merge a none = a) ∧
    (∀ a b : Extras, ∃ m, merge (some a) (some b) = some m ∧
      ∀ key, (m.contains key ↔ a.contains key ∨ b.contains key) ∧
        directivesOf (some m) key = directivesOf (some a) key ++ directivesOf (some b) key) ∧
    ∀ t : Merges, t.result = t.maps.foldl merge none ∧
      ∀ key, directivesOf t.result key = t.maps.flatMap (directivesOf · key) := by
  refine ⟨merge_assoc, fun a => ⟨none_merge a, merge_none a⟩, ?_, ?_⟩
  · intro a b
    refine ⟨a.union b, rfl, fun key => ⟨?_, directivesOf_merge (some a) (some b) key⟩⟩
    rw [contains_union, Bool.or_eq_true]
  · intro t
    exact ⟨t.result_eq_foldl, t.directivesOf_result⟩

end WebTestbed.Extras
