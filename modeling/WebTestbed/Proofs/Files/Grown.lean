import WebTestbed.Proofs.Files.Walk
import WebTestbed.Proofs.Lookup

/-! Trees in which nothing hangs in the air: whatever is in them stands in a directory. -/
namespace WebTestbed.FileTree

variable {t u : FileTree} {p : Path} {name : String} {l l' m start : Location} {n : FileNode}

/-- Each location has one node at most. What is in the tree has a name, and stands in a directory. -/
structure Grown (t : FileTree) : Prop where
  nodup : (t.entries.map Prod.fst).Nodup
  parent : ∀ {l name}, t.node? (l ++ [name]) ≠ none →
    Path.IsName name ∧ t.node? l = some .directory

theorem grown_iff :
    t.Grown ↔ (t.entries.map Prod.fst).Nodup ∧ ∀ e ∈ t.entries, ∀ name ∈ e.1.getLast?,
      Path.IsName name ∧ t.node? e.1.dropLast = some .directory := by
  constructor
  · intro h
    refine ⟨h.nodup, ?_⟩
    rintro ⟨l', n⟩ he name hname
    obtain ⟨l, rfl⟩ := List.getLast?_eq_some_iff.mp hname
    have hsome : t.node? (l ++ [name]) ≠ none := by
      rw [node?, if_neg (by simp), (lookup_eq_some_iff h.nodup).mpr he]
      exact Option.some_ne_none n
    rw [List.dropLast_concat]
    exact h.parent hsome
  · rintro ⟨hnodup, hparent⟩
    refine ⟨hnodup, fun {l name} hn => ?_⟩
    rw [node?, if_neg (by simp)] at hn
    obtain ⟨n, hn⟩ := Option.ne_none_iff_exists'.mp hn
    have hentry := hparent _ ((lookup_eq_some_iff hnodup).mp hn) name List.getLast?_concat
    rwa [List.dropLast_concat] at hentry

instance (t : FileTree) : Decidable t.Grown :=
  decidable_of_iff _ grown_iff.symm

namespace Grown

/-- What something stands in is a directory all the way up. -/
theorem node?_of_append (h : Grown t) {r : Location} (hr : r ≠ [])
    (hn : t.node? (l ++ r) ≠ none) : t.node? l = some .directory := by
  induction r using List.reverseRecOn with
  | nil => exact absurd rfl hr
  | append_singleton r name ih =>
    rw [← List.append_assoc] at hn
    have hdir := (h.parent hn).2
    by_cases hr : r = []
    · simpa [hr] using hdir
    · exact ih hr (by simp [hdir])

theorem directory_above (h : Grown t) {a r : Location}
    (hdir : t.node? (l ++ r) = some .directory) (ha : a <+: r) :
    t.node? (l ++ a) = some .directory := by
  obtain ⟨b, rfl⟩ := ha
  rw [← List.append_assoc] at hdir
  by_cases hb : b = []
  · rwa [hb, List.append_nil] at hdir
  · refine h.node?_of_append hb ?_
    rw [hdir]
    exact Option.some_ne_none _

theorem isName (h : Grown t) (hn : t.node? l ≠ none) : ∀ name ∈ l, Path.IsName name := by
  induction l using List.reverseRecOn with
  | nil => simp
  | append_singleton l name ih =>
    obtain ⟨hname, hdir⟩ := h.parent hn
    intro s hs
    obtain hs | hs := List.mem_append.mp hs
    · exact ih (by simp [hdir]) s hs
    · exact List.mem_singleton.mp hs ▸ hname

theorem isName_of_append (h : Grown t) {r : Location} (hn : t.node? (l ++ r) = some n) :
    ∀ name ∈ r, Path.IsName name := by
  have hsome : t.node? (l ++ r) ≠ none := by
    rw [hn]
    exact Option.some_ne_none n
  exact fun name hname => h.isName hsome name (List.mem_append_right l hname)

theorem node?_dropLast (h : Grown t) (hl : t.node? l = some .directory) :
    t.node? l.dropLast = some .directory := by
  induction l using List.reverseRecOn with
  | nil => rfl
  | append_singleton l name _ =>
    have hn : t.node? (l ++ [name]) ≠ none := by simp [hl]
    rw [List.dropLast_concat]
    exact (h.parent hn).2

theorem mem_entries_iff (h : Grown t) (hl : l ≠ []) :
    (l, n) ∈ t.entries ↔ t.node? l = some n := by
  rw [node?, if_neg (by simpa using hl), lookup_eq_some_iff h.nodup]

/-- A node can be put into a directory, if no file takes the place of a directory. -/
theorem set (h : Grown t) (hl : t.node? l = some .directory) (hname : Path.IsName name)
    (hn : n = .directory ∨ t.node? (l ++ [name]) ≠ some .directory) :
    Grown (t.set (l ++ [name]) n) := by
  have hne : l ++ [name] ≠ [] := List.append_ne_nil_of_right_ne_nil _ (List.cons_ne_nil _ _)
  constructor
  case nodup =>
    rw [FileTree.set, assign_eq_putAt]
    exact nodup_putAt h.nodup _ _
  case parent =>
    intro m s hm
    by_cases hs : m ++ [s] = l ++ [name]
    · obtain ⟨rfl, hname'⟩ := List.append_inj' hs rfl
      obtain rfl : s = name := List.singleton_inj.mp hname'
      refine ⟨hname, ?_⟩
      rw [node?_set_of_ne (by simp), hl]
    · rw [node?_set_of_ne hs] at hm
      obtain ⟨hs', hdir⟩ := h.parent hm
      refine ⟨hs', ?_⟩
      by_cases hml : m = l ++ [name]
      · rw [hml, node?_set_self hne]
        obtain hn | hn := hn
        · rw [hn]
        · exact absurd (hml ▸ hdir) hn
      · rw [node?_set_of_ne hml, hdir]

end Grown

theorem node?_eraseBelow_below {a : Location} (ha : a ≠ []) :
    (t.eraseBelow l).node? (l ++ a) = none := by
  have hne : l ++ a ≠ [] := List.append_ne_nil_of_right_ne_nil l ha
  rw [node?, if_neg (by simpa using hne), eraseBelow, List.lookup_eq_none_iff]
  intro e he
  have hkept := (List.mem_filter.mp he).2
  have hbelow : l.isPrefixOf (l ++ a) = true :=
    List.isPrefixOf_iff_prefix.mpr (List.prefix_append l a)
  refine bne_iff_ne.mpr fun heq => ?_
  simp [← heq, ha, hbelow] at hkept

theorem node?_eraseBelow_beside (h : ∀ a, a ≠ [] → l' ≠ l ++ a) :
    (t.eraseBelow l).node? l' = t.node? l' := by
  let keep (m : Location) : Bool := !(l.isPrefixOf m && l ≠ m)
  have hkept : keep l' = true := by
    by_contra hgone
    simp only [keep, Bool.not_eq_true', Bool.not_eq_false, Bool.and_eq_true,
      List.isPrefixOf_iff_prefix, decide_eq_true_eq] at hgone
    obtain ⟨⟨a, rfl⟩, hne⟩ := hgone
    exact h a (fun hnil => hne (by rw [hnil, List.append_nil])) rfl
  unfold node? eraseBelow
  rw [lookup_filter keep hkept]

theorem Grown.eraseBelow (h : Grown t) (l : Location) : Grown (t.eraseBelow l) := by
  constructor
  case nodup => exact h.nodup.sublist (List.Sublist.map _ List.filter_sublist)
  case parent =>
    intro m s hm
    have hnot : ∀ a, a ≠ [] → m ++ [s] ≠ l ++ a := fun a ha heq =>
      hm (heq ▸ node?_eraseBelow_below ha)
    rw [node?_eraseBelow_beside hnot] at hm
    obtain ⟨hs, hdir⟩ := h.parent hm
    refine ⟨hs, ?_⟩
    rw [node?_eraseBelow_beside fun a _ heq =>
      hnot (a ++ [s]) (List.append_ne_nil_of_right_ne_nil a (List.cons_ne_nil s [])) ?_, hdir]
    rw [heq, List.append_assoc]

/-- A place with nothing below it can be taken away. -/
theorem Grown.erase (h : Grown t) (hl : l ≠ []) (hbelow : ∀ name, t.node? (l ++ [name]) = none) :
    Grown (t.erase l) := by
  constructor
  case nodup => exact h.nodup.sublist (List.Sublist.map _ List.filter_sublist)
  case parent =>
    intro m s hm
    by_cases hself : m ++ [s] = l
    · rw [hself, node?_erase_self hl] at hm
      exact absurd rfl hm
    · rw [node?_erase_of_ne hself] at hm
      obtain ⟨hs, hdir⟩ := h.parent hm
      have hne : m ≠ l := fun heq => hm (heq ▸ hbelow s)
      exact ⟨hs, (node?_erase_of_ne hne).trans hdir⟩

theorem Grown.mem_children_iff (h : Grown t) :
    (name, n) ∈ t.children l ↔ t.node? (l ++ [name]) = some n := by
  rw [← h.mem_entries_iff (List.append_ne_nil_of_right_ne_nil _ (List.cons_ne_nil _ _)), children,
    List.mem_filterMap]
  constructor
  · rintro ⟨⟨l', n'⟩, he, hsome⟩
    split at hsome
    · next hl =>
      obtain ⟨s, hs, heq⟩ := Option.map_eq_some_iff.mp hsome
      obtain ⟨rfl, rfl⟩ := Prod.mk.inj heq
      obtain ⟨r, hr⟩ := List.getLast?_eq_some_iff.mp hs
      have hr' : l' = r ++ [s] := hr
      rw [hr', List.dropLast_concat] at hl
      rw [← hl, ← hr']
      exact he
    · cases hsome
  · intro he
    refine ⟨_, he, ?_⟩
    simp

theorem Grown.mem_below_iff (h : Grown t) {r : Location} :
    (r, n) ∈ t.below l ↔ r ≠ [] ∧ t.node? (l ++ r) = some n := by
  rw [below, List.mem_filterMap]
  constructor
  · rintro ⟨⟨l', n'⟩, he, hsome⟩
    split at hsome
    · next hl =>
      rw [Bool.and_eq_true, List.isPrefixOf_iff_prefix, decide_eq_true_eq] at hl
      obtain ⟨⟨s, rfl⟩, hne⟩ := hl
      obtain ⟨hs, rfl⟩ := Prod.mk.inj (Option.some.inj hsome)
      rw [List.drop_left] at hs
      have hr : r ≠ [] := fun hr => hne (by rw [hs, hr, List.append_nil])
      refine ⟨hr, ?_⟩
      rw [← hs, ← h.mem_entries_iff (List.append_ne_nil_of_right_ne_nil _ (hs ▸ hr))]
      exact he
    · cases hsome
  · rintro ⟨hr, hn⟩
    rw [← h.mem_entries_iff (List.append_ne_nil_of_right_ne_nil _ hr)] at hn
    refine ⟨_, hn, ?_⟩
    simp [hr]

theorem Grown.nodup_children (h : Grown t) (l : Location) :
    ((t.children l).map Prod.fst).Nodup := by
  let nameIn (k : Location) : Option String := if k.dropLast = l then k.getLast? else none
  have hnames : (t.children l).map Prod.fst = (t.entries.map Prod.fst).filterMap nameIn := by
    rw [children, List.map_filterMap, List.filterMap_map]
    refine List.filterMap_congr fun e _ => ?_
    by_cases he : e.1.dropLast = l <;> simp [nameIn, he, Function.comp_def]
  have hinj : ∀ k k' name, name ∈ nameIn k → name ∈ nameIn k' → k = k' := by
    intro k k' name hk hk'
    by_cases hl : k.dropLast = l <;> by_cases hl' : k'.dropLast = l <;>
      simp only [nameIn, hl, hl', if_true, if_false, Option.mem_def] at hk hk'
    · obtain ⟨m, rfl⟩ := List.getLast?_eq_some_iff.mp hk
      obtain ⟨m', rfl⟩ := List.getLast?_eq_some_iff.mp hk'
      rw [List.dropLast_concat] at hl hl'
      rw [hl, hl']
    all_goals simp_all
  rw [hnames]
  exact List.Nodup.filterMap hinj h.nodup

theorem Grown.list_eq_ok (h : Grown t) {r : List (String × FileNode)} (hlist : t.list p = .ok r) :
    t.way? p = some (p.place t.workDir) ∧ (r.map Prod.fst).Nodup ∧
      ∀ name n, (name, n) ∈ r ↔ t.node? (p.place t.workDir ++ [name]) = some n := by
  obtain ⟨⟨l, n'⟩, hfind, hr⟩ := bind_eq_ok_iff.mp hlist
  cases n' with
  | file content x => cases hr
  | directory =>
    obtain ⟨-, hway, -⟩ := find_eq_ok_directory.mp hfind
    have hr' : (t.children l).mergeSort (fun a b => a.1 ≤ b.1) = r := Except.ok.inj hr
    have hperm : r.Perm (t.children l) := hr' ▸ List.mergeSort_perm _ _
    rw [← eq_place_of_way? hway]
    refine ⟨hway, (hperm.map Prod.fst).nodup_iff.mpr (h.nodup_children l), fun name n => ?_⟩
    rw [hperm.mem_iff, h.mem_children_iff]

/-- What is followed to no directory stands in one. -/
theorem Grown.parent_of_follow (h : Grown t) {names : List String}
    (hnames : ∀ s ∈ names, s ≠ "" ∧ '/' ∉ s.toList) (hstart : t.node? start = some .directory)
    (hl : follow t start names = .ok l) (hn : t.node? l ≠ some .directory) :
    ∃ m name, l = m ++ [name] ∧ Path.IsName name ∧ t.node? m = some .directory := by
  fun_induction t.walk? start names with
  | case1 start =>
    obtain rfl := Except.ok.inj hl
    exact absurd hstart hn
  | case2 start r ih =>
    rw [follow_dot] at hl
    exact ih (fun s hs => hnames s (List.mem_cons_of_mem _ hs)) hstart hl
  | case3 start r _ ih =>
    rw [follow_up] at hl
    exact ih (fun s hs => hnames s (List.mem_cons_of_mem _ hs)) (h.node?_dropLast hstart) hl
  | case4 start s r hdot hup hs ih =>
    rw [follow_cons_of_directory hdot hup hs] at hl
    exact ih (fun s' hs' => hnames s' (List.mem_cons_of_mem _ hs')) hs hl
  | case5 start s r hdot hup hs =>
    rw [follow_cons_of_not_directory hdot hup hs] at hl
    have hname := hnames s List.mem_cons_self
    exact ⟨start, s, hl.2.symm, ⟨hname.1, hname.2, hdot, hup⟩, hstart⟩

/-- The directory that a path starts from is there. -/
def HasBase (t : FileTree) (p : Path) : Prop :=
  t.node? (p.base t.workDir) = some .directory

theorem hasBase_of_workDir (h : t.node? t.workDir = some .directory) (p : Path) : t.HasBase p := by
  unfold HasBase Path.base
  split
  · rfl
  · exact h

theorem HasBase.of_isAbsolute_eq {q : Path} (h : t.HasBase p) (hq : q.isAbsolute = p.isAbsolute) :
    t.HasBase q := by
  unfold HasBase Path.base
  rw [hq]
  exact h

/-- What a path names stands in a directory, unless it is one. -/
theorem Grown.parent_of_locate (h : Grown t) (hbase : t.HasBase p) (hl : t.locate p = .ok l)
    (hn : t.node? l ≠ some .directory) :
    ∃ m name, l = m ++ [name] ∧ Path.IsName name ∧ t.node? m = some .directory := by
  rw [locate_eq (text_ne_empty_of_locate hl)] at hl
  exact h.parent_of_follow (fun s hs => Path.ne_empty_and_slash_not_mem_of_mem_names hs)
    hbase hl hn

/-- The places on a way through directories are directories. -/
theorem Grown.node?_of_walk? (h : Grown t) {names q : List String}
    (hstart : t.node? start = some .directory) (hwalk : t.walk? start names = some l)
    (hq : q <+: names) : t.node? (resolve start q) = some .directory := by
  fun_induction resolve start q generalizing names with
  | case1 start => exact hstart
  | case2 start q ih =>
    obtain ⟨r, rfl⟩ := hq
    rw [List.cons_append, walk?, if_pos rfl] at hwalk
    exact ih hstart hwalk (List.prefix_append q r)
  | case3 start q hdot ih =>
    obtain ⟨r, rfl⟩ := hq
    rw [List.cons_append, walk?, if_neg hdot, if_pos rfl] at hwalk
    exact ih (h.node?_dropLast hstart) hwalk (List.prefix_append q r)
  | case4 start s q hdot hup ih =>
    obtain ⟨r, rfl⟩ := hq
    rw [List.cons_append, walk?, if_neg hdot, if_neg hup] at hwalk
    by_cases hs : t.node? (start ++ [s]) = some .directory
    · rw [if_pos hs] at hwalk
      exact ih hs hwalk (List.prefix_append q r)
    · rw [if_neg hs] at hwalk
      cases hwalk

/-- Where all places on the way are directories, there is a way. -/
theorem walk?_of_node? {names : List String}
    (h : ∀ q, q <+: names → t.node? (resolve start q) = some .directory) :
    t.walk? start names = some (resolve start names) := by
  -- what holds behind each name holds behind the first and each of the others
  have hcons : ∀ {s : String} {r : List String} {start : Location},
      (∀ q, q <+: s :: r → t.node? (resolve start q) = some .directory) →
        ∀ q, q <+: r → t.node? (resolve (resolve start [s]) q) = some .directory := by
    intro s r start h q hq
    rw [← resolve_append]
    exact h (s :: q) (List.cons_prefix_cons.mpr ⟨rfl, hq⟩)
  induction names generalizing start with
  | nil => rfl
  | cons s r ih =>
    have hwalk := ih (hcons h)
    have hs := h [s] (List.cons_prefix_cons.mpr ⟨rfl, List.nil_prefix⟩)
    rw [← List.singleton_append, walk?_append, resolve_append, ← hwalk]
    have hone : t.walk? start [s] = some (resolve start [s]) := by
      simp only [resolve, walk?] at hs ⊢
      split_ifs at hs ⊢ <;> rfl
    rw [hone]
    rfl

/-- Where directories stay, ways stay. -/
theorem walk?_mono (h : ∀ l, t.node? l = some .directory → u.node? l = some .directory)
    {names : List String} (hwalk : t.walk? start names = some l) : u.walk? start names = some l := by
  fun_induction t.walk? start names with
  | case1 start => exact hwalk
  | case2 start r ih =>
    rw [walk?, if_pos rfl]
    exact ih hwalk
  | case3 start r hdot ih =>
    rw [walk?, if_neg hdot, if_pos rfl]
    exact ih hwalk
  | case4 start name r hdot hup hn ih =>
    rw [walk?, if_neg hdot, if_neg hup, if_pos (h _ hn)]
    exact ih hwalk
  | case5 => cases hwalk

theorem SameDirectories.hasBase (h : SameDirectories t u) (hbase : t.HasBase p) : u.HasBase p := by
  unfold HasBase
  rw [← h.workDir]
  exact (h.node? _).mp hbase

theorem SameDirectories.way?_eq (h : SameDirectories t u) (p : Path) : u.way? p = t.way? p := by
  ext l
  unfold way?
  rw [← h.workDir]
  exact ⟨walk?_mono fun l => (h.node? l).mpr, walk?_mono fun l => (h.node? l).mp⟩

end WebTestbed.FileTree
