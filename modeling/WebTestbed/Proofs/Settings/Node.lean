import Mathlib.Data.List.Induction
import WebTestbed.Proofs.Lookup
import WebTestbed.Settings.Load

/-! Tables of settings, and what stands in them after others were added: the last that has a name. -/
namespace WebTestbed.Settings.Node

variable {name key k : String} {v : Node} {fs : List (String × Node)}

theorem assign_eq_putAt (name : String) (v : Node) (fs : List (String × Node)) :
    assign name v fs = putAt name v fs := by
  induction fs with
  | nil => rfl
  | cons f fs ih => rw [assign, putAt, ih]

section Assignments

variable {β : Type} (g : β → Node)

/-- Of the values that a name is given the last counts. -/
theorem lookup_foldl_assign (l : List (String × β)) (fs : List (String × Node)) (k : String) :
    (l.foldl (fun fs p => assign p.1 (g p.2) fs) fs).lookup k =
      ((l.reverse.lookup k).map g).or (fs.lookup k) := by
  induction l using List.reverseRecOn with
  | nil => rfl
  | append_singleton l p ih =>
    rw [List.foldl_append, List.foldl_cons, List.foldl_nil, assign_eq_putAt, lookup_putAt, ih,
      List.reverse_append, List.reverse_singleton, List.singleton_append, lookup_cons_eq_ite]
    by_cases h : k = p.1
    · rw [if_pos h, if_pos h]
      rfl
    · rw [if_neg h, if_neg h]

theorem nodup_foldl_assign (l : List (String × β)) (h : (fs.map Prod.fst).Nodup) :
    ((l.foldl (fun fs p => assign p.1 (g p.2) fs) fs).map Prod.fst).Nodup := by
  induction l generalizing fs with
  | nil => exact h
  | cons p l ih =>
    refine ih ?_
    dsimp only
    rw [assign_eq_putAt]
    exact nodup_putAt h p.1 (g p.2)

end Assignments

theorem nodup_ofProperties (l : Ini.Properties) : ((ofProperties l).map Prod.fst).Nodup :=
  nodup_foldl_assign text l List.nodup_nil

theorem nodup_ofSections (s : Ini.Sections) : ((ofSections s).map Prod.fst).Nodup :=
  nodup_foldl_assign (fun ps => table (ofProperties ps)) s.named (nodup_ofProperties s.general)

theorem get?_set (n : Node) : (n.set name v).get? k = if k = name then some v else n.get? k := by
  change (assign name v n.fields).lookup k = _
  rw [assign_eq_putAt, lookup_putAt]
  rfl

theorem foldl_set (fs base : List (String × Node)) :
    fs.foldl (fun n f => n.set f.1 f.2) (table base) =
      table (fs.foldl (fun l f => assign f.1 f.2 l) base) := by
  induction fs generalizing base with
  | nil => rfl
  | cons f fs ih => exact ih (assign f.1 f.2 base)

/-- Where each name is given one value, the table is as the names stand. -/
theorem foldl_assign_of_nodup {β : Type} (g : β → Node) {l : List (String × β)}
    (h : (l.map Prod.fst).Nodup) :
    l.foldl (fun fs p => assign p.1 (g p.2) fs) [] = l.map fun p => (p.1, g p.2) := by
  induction l using List.reverseRecOn with
  | nil => rfl
  | append_singleton l p ih =>
    rw [List.map_append, List.nodup_append] at h
    obtain ⟨hl, -, hp⟩ := h
    have hnot : p.1 ∉ (l.map fun q => (q.1, g q.2)).map Prod.fst := by
      rw [List.map_map]
      exact fun hmem => hp p.1 hmem p.1 List.mem_cons_self rfl
    rw [List.foldl_append, ih hl, List.foldl_cons, List.foldl_nil, assign_eq_putAt,
      putAt_of_not_mem hnot, List.map_append]
    rfl

/-- What stands under a key in a section. -/
def at? (n : Node) (name key : String) : Option Node :=
  (n.get? name).bind (·.get? key)

theorem at?_eq_of_get? {n m : Node} (h : n.get? name = some m) : n.at? name key = m.get? key := by
  rw [at?, h, Option.bind_some]

/-- What stands at the top of a file gives a key of a section its value. -/
inductive Sets (name key : String) (v : Node) : String × Node → Prop where
  | inSection {k : String} {fs : List (String × Node)} (hk : readKey k = (name, []))
      (hv : fs.reverse.lookup key = some v) : Sets name key v (k, table fs)
  | atPath {k : String} (hk : readKey k = (name, [.child key])) : Sets name key v (k, v)

/-- What stands at the top of a file leaves a key of a section alone. -/
inductive Leaves (name key : String) : String × Node → Prop where
  | elsewhere {k : String} {v : Node} (hk : (readKey k).1 ≠ name) : Leaves name key (k, v)
  | beside {k other : String} {steps : List Step} {v : Node}
      (hk : readKey k = (name, .child other :: steps)) (hother : other ≠ key) :
      Leaves name key (k, v)
  | without {k : String} {fs : List (String × Node)} (hk : readKey k = (name, []))
      (hfs : key ∉ fs.map Prod.fst) : Leaves name key (k, table fs)

theorem get?_addKey_table (hk : readKey k = (name, [])) (root : Node) (fs : List (String × Node)) :
    (root.addKey k (table fs)).get? key =
      if key = name then some (table (fs.foldl (fun l f => assign f.1 f.2 l)
        ((root.get? name).getD (table [])).fields))
      else root.get? key := by
  unfold addKey
  rw [hk]
  change (root.merge name (table fs)).get? key = _
  rw [merge, get?_set, foldl_set]

/-- The settings of a section are put before those that stand there. -/
theorem at?_addKey_table (hk : readKey k = (name, [])) (root : Node) (fs : List (String × Node)) :
    (root.addKey k (table fs)).at? name key = (fs.reverse.lookup key).or (root.at? name key) := by
  rw [at?, get?_addKey_table hk, if_pos rfl, Option.bind_some]
  refine (lookup_foldl_assign id fs _ key).trans ?_
  rw [Option.map_id_fun, id, at?]
  cases root.get? name <;> rfl

/-- Where there is a table, there still is one after sections were added. -/
theorem get?_foldl_addKey_table {tops : List (String × Node)}
    (h : ∀ f ∈ tops, readKey f.1 = (f.1, []) ∧ ∃ fs, f.2 = table fs) {root : Node}
    (hroot : ∃ fs, root.get? name = some (table fs)) :
    ∃ fs, (tops.foldl (fun n f => n.addKey f.1 f.2) root).get? name = some (table fs) := by
  induction tops generalizing root with
  | nil => exact hroot
  | cons f tops ih =>
    obtain ⟨⟨hkey, fs, hfs⟩, htops⟩ := List.forall_mem_cons.mp h
    simp only [List.foldl_cons]
    refine ih htops ?_
    rw [hfs, get?_addKey_table hkey]
    split
    · exact ⟨_, rfl⟩
    · exact hroot

theorem at?_addKey_path {other : String} {steps : List Step}
    (hk : readKey k = (name, .child other :: steps)) (root : Node) :
    (root.addKey k v).at? name key = if key = other then
      some (place v steps ((((root.get? name).getD (table [])).get? other).getD (table [])))
    else root.at? name key := by
  unfold addKey
  rw [hk]
  have hget : (place v (.child name :: .child other :: steps) root).get? name =
      some (place v (.child other :: steps) ((root.get? name).getD (table []))) := by
    rw [place, get?_set, if_pos rfl]
  rw [at?_eq_of_get? hget, place, get?_set, at?]
  cases root.get? name <;> rfl

theorem at?_addKey_of_ne (hk : (readKey k).1 ≠ name) (root : Node) :
    (root.addKey k v).at? name key = root.at? name key := by
  suffices h : (root.addKey k v).get? name = root.get? name by rw [at?, h, at?]
  unfold addKey
  split
  · next hkey =>
    rw [hkey] at hk
    unfold merge
    split <;> rw [get?_set, if_neg (Ne.symm hk)]
  · next hkey =>
    rw [hkey] at hk
    rw [place, get?_set, if_neg (Ne.symm hk)]

variable {f : String × Node} {tops : List (String × Node)}

theorem Sets.at?_addKey (h : Sets name key v f) (root : Node) :
    (root.addKey f.1 f.2).at? name key = some v := by
  cases h with
  | inSection hk hv => rw [at?_addKey_table hk, hv, Option.some_or]
  | atPath hk => rw [at?_addKey_path hk, if_pos rfl, place]

theorem Leaves.at?_addKey (h : Leaves name key f) (root : Node) :
    (root.addKey f.1 f.2).at? name key = root.at? name key := by
  cases h with
  | elsewhere hk => exact at?_addKey_of_ne hk root
  | beside hk hother => rw [at?_addKey_path hk, if_neg (Ne.symm hother)]
  | without hk hfs =>
    have hnone := lookup_eq_none_iff_not_mem.mpr (by rwa [List.map_reverse, List.mem_reverse])
    rw [at?_addKey_table hk, hnone, Option.none_or]

theorem at?_foldl_addKey_of_leaves (h : ∀ f ∈ tops, Leaves name key f) (root : Node) :
    (tops.foldl (fun n f => n.addKey f.1 f.2) root).at? name key = root.at? name key := by
  induction tops generalizing root with
  | nil => rfl
  | cons f tops ih =>
    obtain ⟨hf, htops⟩ := List.forall_mem_cons.mp h
    rw [List.foldl_cons, ih htops, hf.at?_addKey]

/-- What one thing at the top of a file sets stays, if all others leave it alone. -/
theorem at?_foldl_addKey_of_sets (hnodup : (tops.map Prod.fst).Nodup) (hmem : f ∈ tops)
    (hsets : Sets name key v f) (hothers : ∀ g ∈ tops, g.1 ≠ f.1 → Leaves name key g)
    (root : Node) : (tops.foldl (fun n f => n.addKey f.1 f.2) root).at? name key = some v := by
  induction tops generalizing root with
  | nil => cases hmem
  | cons g tops ih =>
    rw [List.map_cons, List.nodup_cons] at hnodup
    rw [List.forall_mem_cons] at hothers
    rw [List.foldl_cons]
    obtain rfl | hf := List.mem_cons.mp hmem
    · have hleave : ∀ g ∈ tops, Leaves name key g := by
        intro g hg
        exact hothers.2 g hg fun he => hnodup.1 (he ▸ List.mem_map_of_mem hg)
      rw [at?_foldl_addKey_of_leaves hleave, hsets.at?_addKey]
    · exact ih hnodup.2 hf hothers.2 _

end WebTestbed.Settings.Node
