import WebTestbed.Proofs.Directive.Assignment

/-! Extras that are built of assignments: those of two lists, one after the other, are what the
extras of the lists merge to. -/
namespace WebTestbed.Extras

/-- The extras after an assignment was tried. -/
def tried (x : Extras) (s : String) : Extras :=
  match x.assign s with
  | .ok y => y
  | .error _ => x

section Assigns

variable {x : Extras} {s key directive : String}

theorem assign_eq_error_iff {fault : InvalidAssignment} :
    x.assign s = .error fault ↔ fault = ⟨s⟩ ∧ ¬ IsAssignment s := by
  by_cases hs : IsAssignment s
  · obtain ⟨key, directive, h⟩ := isAssignment_iff.mp hs
    rw [assign_of_assigns h]
    exact ⟨nofun, fun hf => absurd hs hf.2⟩
  · rw [assign_of_not_isAssignment hs]
    constructor
    · intro h
      exact ⟨(Except.error.inj h).symm, hs⟩
    · rintro ⟨rfl, -⟩
      rfl

theorem tried_of_not_isAssignment (h : ¬ IsAssignment s) (x : Extras) : x.tried s = x := by
  rw [tried, assign_of_not_isAssignment h]

end Assigns

/-- The directives for a key among pairs of a key and a directive, if there are any. -/
def directivesIn (key : String) (pairs : List (String × String)) : Option (List String) :=
  match (pairs.filter (·.1 = key)).map Prod.snd with
  | [] => none
  | l => some l

theorem getD_directivesIn (key : String) (pairs : List (String × String)) :
    (directivesIn key pairs).getD [] = (pairs.filter (·.1 = key)).map Prod.snd := by
  unfold directivesIn
  cases (pairs.filter (·.1 = key)).map Prod.snd <;> rfl

theorem directivesIn_cons (key : String) (p : String × String) (pairs : List (String × String)) :
    directivesIn key (p :: pairs) =
      if p.1 = key then some (p.2 :: (directivesIn key pairs).getD [])
      else directivesIn key pairs := by
  rw [getD_directivesIn]
  unfold directivesIn
  by_cases h : p.1 = key
  · simp [h]
  · simp [h]

theorem isSome_directivesIn_iff {key : String} {pairs : List (String × String)} :
    (directivesIn key pairs).isSome = true ↔ ∃ p ∈ pairs, p.1 = key := by
  induction pairs with
  | nil => exact ⟨nofun, nofun⟩
  | cons p pairs ih =>
    rw [directivesIn_cons, List.exists_mem_cons_iff, ← ih]
    by_cases h : p.1 = key
    · simp [h]
    · simp [h]

/-- What a key has after pairs of keys and directives are added in their order. -/
theorem get?_foldl_pairs (pairs : List (String × String)) (x : Extras) (key : String) :
    (pairs.foldl (fun x p => x.append p.1 [p.2]) x).get? key =
      Option.merge (· ++ ·) (x.get? key) (directivesIn key pairs) := by
  induction pairs generalizing x with
  | nil => exact Option.merge_none_right.symm
  | cons p pairs ih =>
    rw [List.foldl_cons, ih, directivesIn_cons]
    by_cases h : p.1 = key
    · subst h
      rw [get?_append_self, if_pos rfl]
      cases x.get? p.1 <;> cases directivesIn p.1 pairs <;> simp
    · rw [get?_append_of_ne (Ne.symm h), if_neg h]

/-- Assignments add their directives in their order. -/
theorem foldlM_assign_of_assigns {texts : List String} {pairs : List (String × String)}
    (h : List.Forall₂ (fun s p => Assigns s p.1 p.2) texts pairs) (x : Extras) :
    texts.foldlM assign x = .ok (pairs.foldl (fun x p => x.append p.1 [p.2]) x) := by
  induction h generalizing x with
  | nil => rfl
  | cons hs _ ih =>
    rw [List.foldlM_cons, assign_of_assigns hs]
    exact ih _

theorem exists_pairs {texts : List String} (h : ∀ s ∈ texts, IsAssignment s) :
    ∃ pairs : List (String × String),
      List.Forall₂ (fun s p => Assigns s p.1 p.2) texts pairs := by
  induction texts with
  | nil => exact ⟨[], .nil⟩
  | cons s texts ih =>
    obtain ⟨hs, htexts⟩ := List.forall_mem_cons.mp h
    obtain ⟨key, directive, hs⟩ := isAssignment_iff.mp hs
    obtain ⟨pairs, hpairs⟩ := ih htexts
    exact ⟨(key, directive) :: pairs, .cons hs hpairs⟩

/-- The extras that a configuration is made with: without keys they count as missing. -/
def orNone (x : Extras) : Option Extras :=
  if x.isEmpty then none else some x

theorem isEmpty_iff {x : Extras} : x.isEmpty = true ↔ x = empty := by
  constructor
  · intro h
    have hentries : x.entries = [] := List.isEmpty_iff.mp h
    apply ext_get?
    intro key
    rw [get?, hentries]
    rfl
  · rintro rfl
    rfl

theorem empty_union (x : Extras) : empty.union x = x := by
  apply ext_get?
  intro key
  rw [get?_union, get?_empty, Option.merge_none_left]

theorem union_empty (x : Extras) : x.union empty = x := by
  apply ext_get?
  intro key
  rw [get?_union, get?_empty, Option.merge_none_right]

/-- Extras merge alike, whether those without keys count as missing or not. -/
theorem merge_orNone (a b : Extras) : merge a.orNone b.orNone = (a.union b).orNone := by
  by_cases ha : a = empty
  · subst ha
    rw [empty_union]
    exact none_merge _
  by_cases hb : b = empty
  · subst hb
    rw [union_empty]
    exact merge_none _
  have hab : a.union b ≠ empty := by
    intro h
    apply ha
    apply ext_get?
    intro key
    have hkey : (a.union b).get? key = none := by
      rw [h]
      rfl
    rw [get?_union, Option.merge_eq_none_iff] at hkey
    exact hkey.1
  unfold orNone
  rw [if_neg (mt isEmpty_iff.mp ha), if_neg (mt isEmpty_iff.mp hb), if_neg (mt isEmpty_iff.mp hab)]
  rfl

/-- Where all texts are assignments, the extras are built of the pairs that they give. -/
theorem ofAssignments_of_pairs {texts : List String} {pairs : List (String × String)}
    (h : List.Forall₂ (fun s p => Assigns s p.1 p.2) texts pairs) :
    ∃ x, ofAssignments texts = .ok x ∧ ∀ key, x.get? key = directivesIn key pairs := by
  refine ⟨_, foldlM_assign_of_assigns h empty, fun key => ?_⟩
  rw [get?_foldl_pairs, get?_empty, Option.merge_none_left]

theorem ofAssignments_append {xs ys : List String} (hxs : ∀ s ∈ xs, IsAssignment s)
    (hys : ∀ s ∈ ys, IsAssignment s) :
    ∃ a b, ofAssignments xs = .ok a ∧ ofAssignments ys = .ok b ∧
      ofAssignments (xs ++ ys) = .ok (a.union b) := by
  obtain ⟨ps, hps⟩ := exists_pairs hxs
  obtain ⟨qs, hqs⟩ := exists_pairs hys
  obtain ⟨a, ha, -⟩ := ofAssignments_of_pairs hps
  obtain ⟨b, hb, hbkeys⟩ := ofAssignments_of_pairs hqs
  refine ⟨a, b, ha, hb, ?_⟩
  rw [ofAssignments] at ha ⊢
  rw [List.foldlM_append, ha]
  change ys.foldlM assign a = _
  rw [foldlM_assign_of_assigns hqs, Except.ok.injEq]
  apply ext_get?
  intro key
  rw [get?_foldl_pairs, get?_union, hbkeys]

/-- A text is refused if it has no equals sign, or only blanks before the first, and changes nothing
then. Any other adds its directive to those of its key, and leaves the other keys alone. So the
extras of two lists of assignments, one after the other, are what the extras of the lists merge to,
and each key has its directives in their order. -/
theorem assignments_merge :
    (∀ (x : Extras) (s : String),
      (∀ fault, x.assign s = .error fault ↔ fault = ⟨s⟩ ∧ ¬ IsAssignment s) ∧
      (¬ IsAssignment s → x.tried s = x) ∧
      (IsAssignment s → ∃ key directive, Assigns s key directive ∧ ∃ y, x.assign s = .ok y ∧
        y.get? key = some ((x.get? key).getD [] ++ [directive]) ∧
        ∀ k, k ≠ key → y.get? k = x.get? k)) ∧
    (∀ xs ys : List String, (∀ s ∈ xs, IsAssignment s) → (∀ s ∈ ys, IsAssignment s) →
      ∃ a b c, ofAssignments xs = .ok a ∧ ofAssignments ys = .ok b ∧
        ofAssignments (xs ++ ys) = .ok c ∧ merge (some a) (some b) = some c ∧
        merge a.orNone b.orNone = c.orNone) ∧
    (∀ xs : List String, (∀ s ∈ xs, IsAssignment s) → ∃ pairs a,
      List.Forall₂ (fun s p => Assigns s p.1 p.2) xs pairs ∧ ofAssignments xs = .ok a ∧
      ∀ key, (a.contains key = true ↔ ∃ p ∈ pairs, p.1 = key) ∧
        directivesOf (some a) key = (pairs.filter (·.1 = key)).map Prod.snd) := by
  refine ⟨fun x s => ⟨fun fault => assign_eq_error_iff, fun h => tried_of_not_isAssignment h x,
    fun h => ?_⟩, fun xs ys hxs hys => ?_, fun xs hxs => ?_⟩
  · obtain ⟨key, directive, h⟩ := isAssignment_iff.mp h
    exact ⟨key, directive, h, x.append key [directive], assign_of_assigns h x,
      get?_append_self x key _, fun k hk => get?_append_of_ne hk x _⟩
  · obtain ⟨a, b, ha, hb, hab⟩ := ofAssignments_append hxs hys
    exact ⟨a, b, a.union b, ha, hb, hab, rfl, merge_orNone a b⟩
  · obtain ⟨pairs, hpairs⟩ := exists_pairs hxs
    obtain ⟨a, ha, hkeys⟩ := ofAssignments_of_pairs hpairs
    refine ⟨pairs, a, hpairs, ha, fun key => ⟨?_, ?_⟩⟩
    · rw [contains, hkeys]
      exact isSome_directivesIn_iff
    · change (a.get? key).getD [] = _
      rw [hkeys, getD_directivesIn]

theorem assignments_merge_interleaved :
    (∀ s ∈ ["a=1", " b = 2=3"], IsAssignment s) ∧ (∀ s ∈ ["b=", "a=4"], IsAssignment s) ∧
    ∃ a b c, ofAssignments ["a=1", " b = 2=3"] = .ok a ∧ ofAssignments ["b=", "a=4"] = .ok b ∧
      ofAssignments ["a=1", " b = 2=3", "b=", "a=4"] = .ok c ∧ merge (some a) (some b) = some c ∧
      c.entries = [("a", ["1", "4"]), ("b", ["2=3", ""])] := by
  have hxs : ∀ s ∈ ["a=1", " b = 2=3"], IsAssignment s := by
    simp only [List.forall_mem_cons]
    exact ⟨⟨['a'], _, rfl, by decide, 'a', by decide, by decide⟩,
      ⟨[' ', 'b', ' '], _, rfl, by decide, 'b', by decide, by decide⟩, nofun⟩
  have hys : ∀ s ∈ ["b=", "a=4"], IsAssignment s := by
    simp only [List.forall_mem_cons]
    exact ⟨⟨['b'], _, rfl, by decide, 'b', by decide, by decide⟩,
      ⟨['a'], _, rfl, by decide, 'a', by decide, by decide⟩, nofun⟩
  obtain ⟨a, b, c, ha, hb, hc, hab, -⟩ := assignments_merge.2.1 _ _ hxs hys
  have h : (match ofAssignments ["a=1", " b = 2=3", "b=", "a=4"] with
      | .ok c => decide (c.entries = [("a", ["1", "4"]), ("b", ["2=3", ""])])
      | .error _ => false) = true := by decide +kernel
  rw [show ofAssignments ["a=1", " b = 2=3", "b=", "a=4"] = .ok c from hc, decide_eq_true_eq] at h
  exact ⟨hxs, hys, a, b, c, ha, hb, hc, hab, h⟩

end WebTestbed.Extras
