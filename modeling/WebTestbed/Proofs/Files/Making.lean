import WebTestbed.Proofs.Files.Operation

/-! Directories that are made with those they are in. -/
namespace WebTestbed

theorem resolve_of_isName {r : List String} (h : ∀ name ∈ r, Path.IsName name) (start : Location) :
    resolve start r = start ++ r := by
  induction r generalizing start with
  | nil => rw [resolve, List.append_nil]
  | cons name r ih =>
    obtain ⟨hname, hr⟩ := List.forall_mem_cons.mp h
    rw [← List.singleton_append, resolve_append, resolve_name hname, ih hr, List.append_assoc]

/-- Names that stay where they are have no part in where names lead. -/
theorem resolve_filter_dot (start : Location) (r : List String) :
    resolve start (r.filter (· ≠ ".")) = resolve start r := by
  induction r generalizing start with
  | nil => rfl
  | cons name r ih =>
    by_cases hdot : name = "."
    · rw [List.filter_cons_of_neg (by simpa using hdot), ih, hdot, resolve, if_pos rfl]
    · rw [List.filter_cons_of_pos (by simpa using hdot), ← List.singleton_append, resolve_append, ih,
        ← resolve_append, List.singleton_append]

namespace Path

variable {p q : Path}

/-- Names that lead along the way of others. -/
def Along (a b : List String) : Prop :=
  ∀ q, q <+: a → ∃ r, r <+: b ∧ ∀ start, resolve start q = resolve start r

theorem along_prefixed {a b : List String} (h : a <+: b) : Along a b :=
  fun q hq => ⟨q, hq.trans h, fun _ => rfl⟩

theorem along_filter_dot (b : List String) : Along (b.filter (· ≠ ".")) b := by
  intro q hq
  obtain ⟨r, hr, rfl⟩ := List.prefix_filter_iff.mp hq
  exact ⟨r, hr, fun start => resolve_filter_dot start r⟩

theorem Along.trans {a b c : List String} (h : Along a b) (h' : Along b c) : Along a c := by
  intro q hq
  obtain ⟨r, hr, hqr⟩ := h q hq
  obtain ⟨r', hr', hrr⟩ := h' r hr
  exact ⟨r', hr', fun start => (hqr start).trans (hrr start)⟩

theorem Along.cons {a b : List String} (h : Along a b) (name : String) :
    Along (name :: a) (name :: b) := by
  intro q hq
  cases q with
  | nil => exact ⟨[], List.nil_prefix, fun _ => rfl⟩
  | cons s q =>
    obtain ⟨rfl, hrest⟩ := List.cons_prefix_cons.mp hq
    obtain ⟨r, hr, hqr⟩ := h q hrest
    refine ⟨s :: r, List.cons_prefix_cons.mpr ⟨rfl, hr⟩, fun start => ?_⟩
    rw [← List.singleton_append, resolve_append, hqr, ← resolve_append, List.singleton_append]

theorem isAbsolute_joinWith {l : List String} (h : ∀ name ∈ l, name ≠ "" ∧ '/' ∉ name.toList) :
    (Path.mk (Text.joinWith "/" l)).isAbsolute = false := by
  rw [Bool.eq_false_iff, Ne, isAbsolute_iff]
  intro hhead
  match l with
  | [] => cases hhead
  | [name] => exact (h name List.mem_cons_self).2 (List.mem_of_mem_head? hhead)
  | name :: s :: r =>
    obtain ⟨hempty, hslash⟩ := h name List.mem_cons_self
    have hne : name.toList ≠ [] := mt String.toList_eq_nil_iff.mp hempty
    rw [Text.toList_joinWith_cons _ _ (List.cons_ne_nil s r), List.head?_append_of_ne_nil _ hne]
      at hhead
    exact hslash (List.mem_of_mem_head? hhead)

theorem joinWith_ne_empty {l : List String} (h : ∀ name ∈ l, IsName name) (hl : l ≠ []) :
    Text.joinWith "/" l ≠ "" := by
  intro hempty
  have hnames := names_joinWith fun name hname =>
    ⟨(h name hname).ne_empty, (h name hname).slash_not_mem⟩
  rw [hempty] at hnames
  exact hl hnames.symm

theorem isAbsolute_slash (s : String) : (Path.mk ("/" ++ s)).isAbsolute = true := by
  rw [isAbsolute_iff, String.toList_append]
  rfl

theorem names_slash (s : String) : (Path.mk ("/" ++ s)).names = (Path.mk s).names := by
  rw [names_eq, names_eq, String.toList_append]
  exact congrArg (List.map String.ofList) (namesFrom_append_slash [] s.toList)

/-- The path of the directory that a path is in leads along its way. -/
theorem of_parent? (h : p.parent? = some q) :
    q.isAbsolute = p.isAbsolute ∧ Along q.names p.names := by
  have hsome : ∀ ns : List String, (∀ name ∈ ns, name ∈ p.names) → Along ns p.names →
      q = ⟨(if p.isAbsolute then "/" else "") ++ Text.joinWith "/" ns.dropLast⟩ →
        q.isAbsolute = p.isAbsolute ∧ Along q.names p.names := by
    rintro ns hmem halong rfl
    have hnames : ∀ name ∈ ns.dropLast, name ≠ "" ∧ '/' ∉ name.toList := fun name hname =>
      ne_empty_and_slash_not_mem_of_mem_names (hmem name (List.mem_of_mem_dropLast hname))
    have hdrop : Along ns.dropLast p.names :=
      (along_prefixed (List.dropLast_prefix ns)).trans halong
    cases habs : p.isAbsolute with
    | true =>
      rw [if_pos rfl, names_slash, names_joinWith hnames]
      exact ⟨isAbsolute_slash _, hdrop⟩
    | false =>
      rw [if_neg Bool.false_ne_true, String.empty_append, names_joinWith hnames]
      exact ⟨isAbsolute_joinWith hnames, hdrop⟩
  let kept := p.names.take 1 ++ (p.names.drop 1).filter (· ≠ ".")
  have hkept : ∀ name ∈ kept, name ∈ p.names := by
    intro name hname
    obtain hname | hname := List.mem_append.mp hname
    · exact List.mem_of_mem_take hname
    · exact List.mem_of_mem_drop (List.mem_of_mem_filter hname)
  have halong : Along kept p.names := by
    unfold kept
    cases p.names with
    | nil => exact along_prefixed List.prefix_rfl
    | cons name r => exact (along_filter_dot r).cons name
  simp only [parent?, Option.ite_none_left_eq_some, Option.some.injEq] at h
  refine hsome (if p.isAbsolute then kept.filter (· ≠ ".") else kept) ?_ ?_ h.2.symm
  · split
    · exact fun name hname => hkept name (List.mem_of_mem_filter hname)
    · exact hkept
  · split
    · exact (along_filter_dot kept).trans halong
    · exact halong

/-- A path goes on from another with more names. -/
structure Extends (p q : Path) (r : List String) : Prop where
  isAbsolute : q.isAbsolute = p.isAbsolute
  names : q.names = p.names ++ r
  isName : ∀ name ∈ r, IsName name

namespace Extends

theorem join {name : String} (hname : IsName name) (p : Path) : Extends p (p.join name) [name] := by
  refine ⟨isAbsolute_join p hname.isAbsolute_eq, names_join_name p hname, ?_⟩
  simpa using hname

theorem joinWith {r : List String} (hr : ∀ name ∈ r, IsName name) (p : Path) :
    Extends p (p.join ⟨Text.joinWith "/" r⟩) r := by
  have hnames : ∀ name ∈ r, name ≠ "" ∧ '/' ∉ name.toList := fun name hname =>
    ⟨(hr name hname).ne_empty, (hr name hname).slash_not_mem⟩
  have habs := isAbsolute_joinWith hnames
  refine ⟨isAbsolute_join p habs, ?_, hr⟩
  rw [names_join p habs, names_joinWith hnames]

theorem trans {p' : Path} {r r' : List String} (h : Extends p q r) (h' : Extends q p' r') :
    Extends p p' (r ++ r') := by
  refine ⟨h'.isAbsolute.trans h.isAbsolute, ?_, fun name hname => ?_⟩
  · rw [h'.names, h.names, List.append_assoc]
  · exact (List.mem_append.mp hname).elim (h.isName name) (h'.isName name)

theorem base_eq {r : List String} (h : Extends p q r) (workDir : Location) :
    q.base workDir = p.base workDir := by
  rw [base, base, h.isAbsolute]

theorem hasBase {r : List String} {t : FileTree} (h : Extends p q r) (hbase : t.HasBase p) :
    t.HasBase q :=
  hbase.of_isAbsolute_eq h.isAbsolute

theorem place_eq {r : List String} (h : Extends p q r) (workDir : Location) :
    q.place workDir = p.place workDir ++ r := by
  rw [place, h.base_eq, h.names, resolve_append, resolve_of_isName h.isName, place]

end Extends

end Path

namespace FileTree

variable {t u v : FileTree} {p q : Path} {l start : Location} {a : List String}

theorem makeDirectory_eq_ok :
    t.makeDirectory p = .ok u ↔
      ∃ l, t.locate p = .ok l ∧ t.node? l = none ∧ u = t.set l .directory := by
  unfold makeDirectory
  rw [bind_eq_ok_iff]
  refine exists_congr fun l => and_congr_right fun _ => ?_
  cases t.node? l <;> simp [pure, Except.pure, eq_comm]

/-- What names led to is on a way through directories once it is a directory itself. -/
theorem walk?_of_follow_into (hdirs : ∀ l, t.node? l = some .directory → u.node? l = some .directory)
    (h : follow t start a = .ok l) (hl : u.node? l = some .directory) :
    u.walk? start a = some l := by
  fun_induction t.walk? start a with
  | case1 start => exact congrArg some (Except.ok.inj h)
  | case2 start r ih =>
    rw [follow_dot] at h
    rw [walk?, if_pos rfl, ih h]
  | case3 start r hdot ih =>
    rw [follow_up] at h
    rw [walk?, if_neg hdot, if_pos rfl, ih h]
  | case4 start name r hdot hup hn ih =>
    rw [follow_cons_of_directory hdot hup hn] at h
    rw [walk?, if_neg hdot, if_neg hup, if_pos (hdirs _ hn), ih h]
  | case5 start name r hdot hup hn =>
    obtain ⟨rfl, rfl⟩ := (follow_cons_of_not_directory hdot hup hn).mp h
    rw [walk?, if_neg hdot, if_neg hup, if_pos hl, walk?]

/-- A location is as it was, or nothing was there and the way of a path has a directory there now. -/
def Paved (p : Path) (t u : FileTree) (l : Location) : Prop :=
  u.node? l = t.node? l ∨ t.node? l = none ∧ u.node? l = some .directory ∧
    ∃ q, q <+: p.names ∧ l = resolve (p.base t.workDir) q

theorem Paved.node?_directory (h : Paved p t u l) (hl : t.node? l = some .directory) :
    u.node? l = some .directory := by
  obtain heq | ⟨-, hdir, -⟩ := h
  · rw [heq, hl]
  · exact hdir

theorem Paved.congr_right (h : Paved p t u l) (hv : v.node? l = u.node? l) : Paved p t v l := by
  unfold Paved
  rw [hv]
  exact h

theorem Paved.trans (h : Paved p t u l) (h' : Paved p u v l) (hwork : u.workDir = t.workDir) :
    Paved p t v l := by
  obtain hv | ⟨hnone, hdir, hway⟩ := h'
  · exact h.congr_right hv
  · obtain hu | ⟨-, hdir', -⟩ := h
    · exact .inr ⟨hu ▸ hnone, hdir, hwork ▸ hway⟩
    · cases hnone.symm.trans hdir'

/-- Directories were made on the way of a path, and nothing else was done. -/
structure Makes (p : Path) (t u : FileTree) : Prop where
  grown : u.Grown
  workDir : u.workDir = t.workDir
  node? : ∀ l, Paved p t u l

namespace Makes

theorem refl (h : t.Grown) (p : Path) : Makes p t t :=
  ⟨h, rfl, fun _ => .inl rfl⟩

theorem way?_eq_some (h : Makes p t u) (hway : t.way? q = some l) : u.way? q = some l := by
  unfold way? at hway ⊢
  rw [h.workDir]
  exact walk?_mono (fun l => (h.node? l).node?_directory) hway

theorem trans (h : Makes p t u) (h' : Makes p u v) : Makes p t v :=
  ⟨h'.grown, h'.workDir.trans h.workDir, fun l => (h.node? l).trans (h'.node? l) h.workDir⟩

theorem hasBase (h : Makes p t u) (hbase : t.HasBase q) : u.HasBase q := by
  unfold HasBase
  rw [h.workDir]
  exact (h.node? _).node?_directory hbase

/-- What is made for the directory that a path is in is made along the path. -/
theorem of_parent? (h : Makes q t u) (hq : p.parent? = some q) : Makes p t u := by
  obtain ⟨habs, halong⟩ := Path.of_parent? hq
  have hbase : q.base t.workDir = p.base t.workDir := by rw [Path.base, Path.base, habs]
  refine ⟨h.grown, h.workDir, fun l => (h.node? l).imp_right ?_⟩
  rintro ⟨hnone, hdir, a, ha, rfl⟩
  obtain ⟨b, hb, hab⟩ := halong a ha
  exact ⟨hnone, hdir, b, hb, by rw [hab, hbase]⟩

end Makes

theorem makes_of_makeDirectory (h : t.Grown) (hbase : t.HasBase p) (hu : t.makeDirectory p = .ok u) :
    Makes p t u ∧ u.way? p = some (p.place t.workDir) := by
  obtain ⟨l, hl, hnone, rfl⟩ := makeDirectory_eq_ok.mp hu
  have hplace := eq_place_of_locate hl
  have hfree : t.node? l ≠ some .directory := by simp [hnone]
  have hself : (t.set l .directory).node? l = some .directory :=
    node?_set_self (ne_nil_of_node?_ne hfree)
  have hmakes : Makes p t (t.set l .directory) := by
    refine ⟨h.set_of_locate hbase hl hfree _, rfl, fun l' => ?_⟩
    by_cases he : l' = l
    · rw [he]
      exact .inr ⟨hnone, hself, _, List.prefix_rfl, hplace⟩
    · exact .inl (node?_set_of_ne he)
  refine ⟨hmakes, ?_⟩
  rw [locate_eq (text_ne_empty_of_locate hl)] at hl
  rw [← hplace]
  exact walk?_of_follow_into (fun l => (hmakes.node? l).node?_directory) hl hself

theorem way?_of_isDirectory (h : t.isDirectory p = true) :
    t.way? p = some (p.place t.workDir) := by
  obtain ⟨-, l, hl, -⟩ := isDirectory_iff.mp h
  rw [← eq_place_of_way? hl, hl]

theorem makes_of_makeDirectoriesFrom {fuel : Nat} (h : t.Grown) (hbase : t.HasBase p)
    (hu : t.makeDirectoriesFrom p fuel = .ok u) :
    Makes p t u ∧ (p.text ≠ "" → u.way? p = some (p.place t.workDir)) := by
  induction fuel generalizing p t u with
  | zero => cases hu
  | succ fuel ih =>
    unfold makeDirectoriesFrom at hu
    split at hu
    · next hempty =>
      obtain rfl := Except.ok.inj hu
      exact ⟨.refl h p, fun hne => absurd (String.isEmpty_iff.mp hempty) hne⟩
    split at hu
    · next v hv =>
      obtain rfl := Except.ok.inj hu
      obtain ⟨hmakes, hway⟩ := makes_of_makeDirectory h hbase hv
      exact ⟨hmakes, fun _ => hway⟩
    · cases hq : p.parent? with
      | none =>
        simp only [hq] at hu
        cases hu
      | some q =>
        simp only [hq] at hu
        obtain ⟨v, hv, hu⟩ := bind_eq_ok_iff.mp hu
        have hbase' := hbase.of_isAbsolute_eq (Path.of_parent? hq).1
        have hmakes := (ih h hbase' hv).1.of_parent? hq
        split at hu
        · next w hw =>
          obtain rfl := Except.ok.inj hu
          obtain ⟨hmakes', hway⟩ := makes_of_makeDirectory hmakes.grown (hmakes.hasBase hbase) hw
          refine ⟨hmakes.trans hmakes', fun _ => ?_⟩
          rw [hway, hmakes.workDir]
        · split at hu
          · next hdir =>
            obtain rfl := Except.ok.inj hu
            refine ⟨hmakes, fun _ => ?_⟩
            rw [way?_of_isDirectory hdir, hmakes.workDir]
          · cases hu
    · split at hu
      · next hdir =>
        obtain rfl := Except.ok.inj hu
        exact ⟨.refl h p, fun _ => way?_of_isDirectory hdir⟩
      · cases hu

/-- Directories are made along the path, which leads through directories then. -/
theorem makes_of_makeDirectories (h : t.Grown) (hbase : t.HasBase p)
    (hu : t.makeDirectories p = .ok u) :
    Makes p t u ∧ (p.text ≠ "" → u.way? p = some (p.place t.workDir)) :=
  makes_of_makeDirectoriesFrom h hbase hu

/-- There is a way on to where a directory is. -/
theorem Grown.way?_extends (h : t.Grown) (hbase : t.HasBase p) {r : List String} {m : Location} (hext : p.Extends q r)
    (hway : t.way? p = some m) :
    t.way? q = some l ↔ l = m ++ r ∧ t.node? l = some .directory := by
  have hm := (h.way?_eq_place hbase hway).2
  have hwalk : t.way? q = t.walk? m r := by
    unfold way? at hway ⊢
    rw [hext.base_eq, hext.names, walk?_append, hway]
    rfl
  rw [hwalk]
  constructor
  · intro hl
    obtain rfl := eq_resolve_of_walk? hl
    have hdir := h.node?_of_walk? hm hl List.prefix_rfl
    exact ⟨resolve_of_isName hext.isName m, hdir⟩
  · rintro ⟨rfl, hl⟩
    have hplaces : ∀ a, a <+: r → t.node? (resolve m a) = some .directory := by
      intro a ha
      rw [resolve_of_isName fun name hname => hext.isName name (ha.subset hname)]
      exact h.directory_above hl ha
    rw [walk?_of_node? hplaces, resolve_of_isName hext.isName]

/-- Where there is a way to a directory, only what is missing below it is made. -/
theorem node?_of_makeDirectories (h : t.Grown) (hbase : t.HasBase p) {r : List String} {m : Location}
    (hext : p.Extends q r) (hway : t.way? p = some m) (hq : q.text ≠ "")
    (hu : t.makeDirectories q = .ok u) :
    u.Grown ∧ u.workDir = t.workDir ∧ u.HasBase p ∧ u.way? p = some m ∧
      (∀ a, a <+: r → u.node? (m ++ a) = some .directory) ∧
      ∀ l, (∀ a, a <+: r → l ≠ m ++ a) → u.node? l = t.node? l := by
  obtain ⟨hmakes, hway'⟩ := makes_of_makeDirectories h (hext.hasBase hbase) hu
  obtain ⟨hplace, hm⟩ := h.way?_eq_place hbase hway
  refine ⟨hmakes.grown, hmakes.workDir, hmakes.hasBase hbase, hmakes.way?_eq_some hway, ?_,
    fun l hl => ?_⟩
  · intro a ha
    have hdir := (hmakes.grown.way?_eq_place (hmakes.hasBase (hext.hasBase hbase)) (hway' hq)).2
    rw [hext.place_eq, ← hplace] at hdir
    exact hmakes.grown.directory_above hdir ha
  · obtain heq | ⟨hnone, -, a, ha, rfl⟩ := hmakes.node? l
    · exact heq
    -- what is on the way to the directory is there, and the rest is below it
    · rw [hext.base_eq] at hnone hl
      rw [hext.names] at ha
      obtain ha' | ⟨b, rfl⟩ := List.prefix_or_prefix_of_prefix ha (List.prefix_append p.names r)
      · rw [h.node?_of_walk? hbase hway ha'] at hnone
        cases hnone
      · have hb : b <+: r := (List.prefix_append_right_inj p.names).mp ha
        refine absurd ?_ (hl b hb)
        have hname : ∀ name ∈ b, Path.IsName name := fun name hname =>
          hext.isName name (hb.subset hname)
        rw [resolve_append, resolve_of_isName hname, hplace, Path.place]

end FileTree

end WebTestbed
