import Mathlib.Data.List.Nodup

/-! Lists of keys with their values: what stands at a key, before and after one is given a value. -/
namespace WebTestbed

variable {κ ν : Type} [BEq κ] [LawfulBEq κ] {k : κ} {v : ν} {es : List (κ × ν)}

theorem lookup_cons_eq_ite [DecidableEq κ] (e : κ × ν) (es : List (κ × ν)) (k : κ) :
    (e :: es).lookup k = if k = e.1 then some e.2 else es.lookup k := by
  rw [List.lookup_cons]
  by_cases h : k = e.1
  · simp [h]
  · simp [h, beq_false_of_ne h]

/-- Where each key stands once, what stands at a key is what is paired with it. -/
theorem lookup_eq_some_iff (h : (es.map Prod.fst).Nodup) :
    es.lookup k = some v ↔ (k, v) ∈ es := by
  induction es with
  | nil => simp
  | cons e r ih =>
    rw [List.map_cons, List.nodup_cons] at h
    obtain ⟨hnot, hr⟩ := h
    rw [List.lookup_cons, List.mem_cons]
    by_cases he : k = e.1
    · have hmem : (k, v) ∉ r := fun hm => hnot (he ▸ List.mem_map_of_mem hm)
      simp [he, Prod.ext_iff, eq_comm, he ▸ hmem]
    · have hne : (k, v) ≠ e := fun heq => he (congrArg Prod.fst heq)
      simp only [beq_false_of_ne he, hne, false_or]
      exact ih hr

theorem lookup_reverse (h : (es.map Prod.fst).Nodup) : es.reverse.lookup k = es.lookup k := by
  ext v
  have hrev : (es.reverse.map Prod.fst).Nodup := by rwa [List.map_reverse, List.nodup_reverse]
  rw [lookup_eq_some_iff hrev, lookup_eq_some_iff h, List.mem_reverse]

theorem lookup_eq_none_iff_not_mem : es.lookup k = none ↔ k ∉ es.map Prod.fst := by
  rw [List.lookup_eq_none_iff, List.mem_map]
  constructor
  · rintro h ⟨e, he, rfl⟩
    exact absurd rfl (bne_iff_ne.mp (h e he))
  · intro h e he
    exact bne_iff_ne.mpr fun hk => h ⟨e, he, hk.symm⟩

section Put

variable {κ ν : Type} [DecidableEq κ] {k : κ} {v : ν} {es : List (κ × ν)}

/-- A key gets a value: in its place, or at the end if it is new. Trees of files, settings, header
fields and results all change in this way. -/
def putAt (k : κ) (v : ν) : List (κ × ν) → List (κ × ν)
  | [] => [(k, v)]
  | e :: es => if e.1 = k then (k, v) :: es else e :: putAt k v es

theorem mem_of_mem_putAt {e : κ × ν} (h : e ∈ putAt k v es) : e = (k, v) ∨ e ∈ es := by
  induction es with
  | nil => exact .inl (List.mem_singleton.mp h)
  | cons d es ih =>
    rw [putAt] at h
    split at h
    · exact (List.mem_cons.mp h).imp_right (List.mem_cons_of_mem d)
    · obtain rfl | h := List.mem_cons.mp h
      · exact .inr List.mem_cons_self
      · exact (ih h).imp_right (List.mem_cons_of_mem d)

/-- A key keeps its place, and a new one is the last. -/
theorem map_fst_putAt (k : κ) (v : ν) (es : List (κ × ν)) :
    (putAt k v es).map Prod.fst =
      if k ∈ es.map Prod.fst then es.map Prod.fst else es.map Prod.fst ++ [k] := by
  induction es with
  | nil => simp [putAt]
  | cons e es ih =>
    by_cases he : e.1 = k
    · simp [putAt, he]
    · rw [putAt, if_neg he, List.map_cons, ih]
      by_cases hm : k ∈ es.map Prod.fst
      · simp [hm]
      · simp [hm, Ne.symm he]

theorem nodup_putAt (h : (es.map Prod.fst).Nodup) (k : κ) (v : ν) :
    ((putAt k v es).map Prod.fst).Nodup := by
  rw [map_fst_putAt]
  split
  · exact h
  · next hk => exact List.nodup_append.mpr ⟨h, List.nodup_singleton k, fun a ha b hb hab =>
      hk (List.mem_singleton.mp hb ▸ hab ▸ ha)⟩

theorem putAt_of_not_mem (h : k ∉ es.map Prod.fst) (v : ν) : putAt k v es = es ++ [(k, v)] := by
  induction es with
  | nil => rfl
  | cons e es ih =>
    rw [List.map_cons, List.mem_cons, not_or] at h
    rw [putAt, if_neg (Ne.symm h.1), ih h.2, List.cons_append]

theorem putAt_putAt (k : κ) (v w : ν) (es : List (κ × ν)) :
    putAt k w (putAt k v es) = putAt k w es := by
  induction es with
  | nil => simp [putAt]
  | cons e es ih =>
    by_cases he : e.1 = k
    · simp [putAt, he]
    · simp [putAt, he, ih]

theorem filter_putAt (k : κ) (v : ν) (es : List (κ × ν)) :
    (putAt k v es).filter (·.1 ≠ k) = es.filter (·.1 ≠ k) := by
  induction es with
  | nil => simp [putAt]
  | cons e es ih =>
    by_cases he : e.1 = k
    · rw [putAt, if_pos he, List.filter_cons_of_neg (by simp),
        List.filter_cons_of_neg (by simp [he])]
    · rw [putAt, if_neg he, List.filter_cons_of_pos (by simpa using he),
        List.filter_cons_of_pos (by simpa using he), ih]

theorem lookup_putAt [BEq κ] [LawfulBEq κ] (k : κ) (v : ν) (es : List (κ × ν)) (k' : κ) :
    (putAt k v es).lookup k' = if k' = k then some v else es.lookup k' := by
  induction es with
  | nil => exact lookup_cons_eq_ite (k, v) [] k'
  | cons e es ih =>
    by_cases he : e.1 = k
    · rw [putAt, if_pos he, lookup_cons_eq_ite, lookup_cons_eq_ite, he]
      split <;> rfl
    · rw [putAt, if_neg he, lookup_cons_eq_ite, lookup_cons_eq_ite, ih]
      by_cases hk : k' = k
      · rw [if_pos hk, if_pos hk, if_neg (hk ▸ Ne.symm he)]
      · rw [if_neg hk, if_neg hk]

end Put

end WebTestbed
