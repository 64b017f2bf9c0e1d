import WebTestbed.Text.Template
import Mathlib.Data.List.TakeWhile

/-! Templates read by rules, from the left: what the rules give for a text is what it expands to. -/
namespace WebTestbed.Template

/-- An ASCII letter or underscore, and then any of these and of the digits. -/
def IsName (name : List Char) : Prop :=
  ∃ c r, name = c :: r ∧ isNameStart c = true ∧ ∀ d ∈ r, isNameChar d = true

/-- The text does not go on with a character of names. -/
def EndsName (rest : List Char) : Prop :=
  ∀ c, rest.head? = some c → isNameChar c = false

/-- What a dollar sign stands for together with the start of the text after it, and what is left. A
name is as long as possible. -/
inductive Reference : List Char → Piece → List Char → Prop where
  | dollar (rest : List Char) : Reference ('$' :: rest) (.char '$') rest
  | named {name rest : List Char} (hname : IsName name) (hrest : EndsName rest) :
      Reference (name ++ rest) (.variable name) rest
  | braced {name : List Char} (hname : IsName name) (rest : List Char) :
      Reference ('\x7b' :: (name ++ '\x7d' :: rest)) (.variable name) rest

/-- The text, read from the left, has these parts. A dollar sign that refers to nothing stands for
itself, as all other characters do. -/
inductive Scans : List Char → List Piece → Prop where
  | nil : Scans [] []
  | plain {c : Char} {r : List Char} {ps : List Piece} (hc : c ≠ '$') (hr : Scans r ps) :
      Scans (c :: r) (.char c :: ps)
  | reference {r rest : List Char} {p : Piece} {ps : List Piece} (hp : Reference r p rest)
      (hrest : Scans rest ps) : Scans ('$' :: r) (p :: ps)
  | alone {r : List Char} {ps : List Piece} (hnone : ∀ p rest, ¬ Reference r p rest)
      (hr : Scans r ps) : Scans ('$' :: r) (.char '$' :: ps)

/-- The parts of a template, read in one go. A dollar sign that starts no reference stands for itself.
-/
def parse : List Char → List Piece
  | [] => []
  | c :: r =>
    if c = '$' then match h : reference? r with
      | some (p, rest) =>
        have := length_reference? h
        p :: parse rest
      | none => .char c :: parse r
    else .char c :: parse r
termination_by s => s.length
decreasing_by all_goals simp_wf <;> omega

/-- The text that parts stand for. The first variable without a value is an error. -/
def fill (vars : String → Option String) : List Piece → Except UnknownVariable (List Char)
  | [] => .ok []
  | .char c :: r => (fill vars r).map (c :: ·)
  | .variable name :: r => match vars (String.ofList name) with
    | none => .error ⟨String.ofList name⟩
    | some v => (fill vars r).map (v.toList ++ ·)

section Names

variable {s name rest : List Char}

theorem takeWhile_append_of_endsName (h : ∀ c ∈ name, isNameChar c = true) (hrest : EndsName rest) :
    (name ++ rest).takeWhile isNameChar = name := by
  rw [List.takeWhile_append_of_pos h]
  cases rest with
  | nil => simp
  | cons c rest => simp [hrest c rfl]

theorem dropWhile_append_of_endsName (h : ∀ c ∈ name, isNameChar c = true) (hrest : EndsName rest) :
    (name ++ rest).dropWhile isNameChar = rest := by
  rw [List.dropWhile_append_of_pos h]
  cases rest with
  | nil => rfl
  | cons c rest => simp [hrest c rfl]

/-- A text has one longest name at its start at most. -/
theorem name?_eq_some_iff :
    name? s = some (name, rest) ↔ s = name ++ rest ∧ IsName name ∧ EndsName rest := by
  constructor
  · intro h
    cases s with
    | nil => cases h
    | cons c r =>
      simp only [name?] at h
      split_ifs at h with hc
      cases h
      refine ⟨by simp, ⟨c, _, rfl, hc, fun d hd => List.mem_takeWhile_imp hd⟩, ?_⟩
      intro d hd
      have hnot := List.head?_dropWhile_not isNameChar r
      rwa [hd] at hnot
  · rintro ⟨rfl, ⟨c, r, rfl, hc, hr⟩, hrest⟩
    simp only [List.cons_append, name?]
    rw [if_pos hc, takeWhile_append_of_endsName hr hrest, dropWhile_append_of_endsName hr hrest]

theorem endsName_brace (rest : List Char) : EndsName ('\x7d' :: rest) := by
  rintro c ⟨⟩
  decide

theorem bracedName?_eq_some_iff :
    bracedName? s = some (name, rest) ↔ s = name ++ '\x7d' :: rest ∧ IsName name := by
  constructor
  · intro h
    unfold bracedName? at h
    split at h
    · next n r hn =>
      cases h
      obtain ⟨rfl, hname, -⟩ := name?_eq_some_iff.mp hn
      exact ⟨rfl, hname⟩
    · cases h
  · rintro ⟨rfl, hname⟩
    have hn : name? (name ++ '\x7d' :: rest) = some (name, '\x7d' :: rest) :=
      name?_eq_some_iff.mpr ⟨rfl, hname, endsName_brace rest⟩
    simp only [bracedName?, hn]

end Names

theorem reference?_eq_some_iff {s rest : List Char} {p : Piece} :
    reference? s = some (p, rest) ↔ Reference s p rest := by
  constructor
  · intro h
    unfold reference? at h
    split at h
    · cases h
    · cases h
      exact .dollar _
    · obtain ⟨⟨name, r⟩, hn, he⟩ := Option.map_eq_some_iff.mp h
      cases he
      obtain ⟨rfl, hname⟩ := bracedName?_eq_some_iff.mp hn
      exact .braced hname _
    · obtain ⟨⟨name, r⟩, hn, he⟩ := Option.map_eq_some_iff.mp h
      cases he
      obtain ⟨hs, hname, hrest⟩ := name?_eq_some_iff.mp hn
      rw [hs]
      exact .named hname hrest
  · intro h
    cases h with
    | dollar => rfl
    | @named name rest hname hrest =>
      have hn : name? (name ++ rest) = some (name, rest) := name?_eq_some_iff.mpr ⟨rfl, hname, hrest⟩
      obtain ⟨c, r, rfl, hc, -⟩ := hname
      have hdollar : c ≠ '$' := by
        rintro rfl
        cases hc
      have hbrace : c ≠ '\x7b' := by
        rintro rfl
        cases hc
      unfold reference?
      split <;> simp_all
    | @braced name hname rest =>
      have hn : bracedName? (name ++ '\x7d' :: rest) = some (name, rest) :=
        bracedName?_eq_some_iff.mpr ⟨rfl, hname⟩
      simp only [reference?, hn, Option.map_some]

theorem reference?_eq_none_iff {s : List Char} :
    reference? s = none ↔ ∀ p rest, ¬ Reference s p rest := by
  rw [Option.eq_none_iff_forall_ne_some]
  constructor
  · intro h p rest hp
    exact h (p, rest) (reference?_eq_some_iff.mpr hp)
  · rintro h ⟨p, rest⟩ hp
    exact h p rest (reference?_eq_some_iff.mp hp)

@[simp] theorem parse_nil : parse [] = [] := by
  rw [parse]

theorem parse_cons_of_reference {r rest : List Char} {p : Piece} (h : reference? r = some (p, rest)) :
    parse ('$' :: r) = p :: parse rest := by
  rw [parse, if_pos rfl]
  split
  · next h' =>
    cases h'.symm.trans h
    rfl
  · next h' => cases h'.symm.trans h

theorem parse_cons_of_no_reference {c : Char} {r : List Char}
    (h : (if c = '$' then reference? r else none) = none) : parse (c :: r) = .char c :: parse r := by
  rw [parse]
  split
  · next hc =>
    rw [if_pos hc] at h
    split
    · next h' => cases h'.symm.trans h
    · rfl
  · rfl

theorem scans_parse (s : List Char) : Scans s (parse s) := by
  fun_induction parse s with
  | case1 => exact .nil
  | case2 r p rest h hlen ih => exact .reference (reference?_eq_some_iff.mp h) ih
  | case3 r h ih => exact .alone (reference?_eq_none_iff.mp h) ih
  | case4 c r hc ih => exact .plain hc ih

/-- The rules leave no choice. -/
theorem Scans.eq_parse {s : List Char} {ps : List Piece} (h : Scans s ps) : ps = parse s := by
  induction h with
  | nil => rw [parse]
  | plain hc _ ih => rw [parse_cons_of_no_reference (if_neg hc), ih]
  | reference hp _ ih => rw [parse_cons_of_reference (reference?_eq_some_iff.mpr hp), ih]
  | @alone r _ hnone _ ih =>
    have h : (if '$' = '$' then reference? r else none) = none := by
      rw [if_pos rfl]
      exact reference?_eq_none_iff.mpr hnone
    rw [parse_cons_of_no_reference h, ih]

theorem Reference.suffix {s rest : List Char} {p : Piece} (h : Reference s p rest) : rest <:+ s := by
  cases h with
  | dollar => exact List.suffix_cons ..
  | named => exact List.suffix_append ..
  | braced =>
    exact ((List.suffix_cons ..).trans (List.suffix_append ..)).trans (List.suffix_cons ..)

theorem findAll_of_none {position : Nat} {s : List Char} (h : find? position s = none) :
    findAll position s = [] := by
  rw [findAll]
  split
  · rfl
  · next h' => cases h.symm.trans h'

theorem findAll_of_some {position : Nat} {s rest : List Char} {m : Match}
    (h : find? position s = some (m, rest)) : findAll position s = m :: findAll m.stop rest := by
  rw [findAll]
  split
  · next h' => cases h.symm.trans h'
  · next h' =>
    cases h.symm.trans h'
    rfl

/-- The search for a reference passes over what stands for itself. -/
theorem find?_cases (position : Nat) (s : List Char) :
    (find? position s = none ∧ parse s = s.map .char) ∨
      ∃ before here rest p, s = before ++ here ++ rest ∧
        find? position s = some (⟨position + before.length,
          position + (before ++ here).length, p⟩, rest) ∧
        parse s = before.map .char ++ p :: parse rest := by
  induction s generalizing position with
  | nil => exact .inl ⟨rfl, parse_nil⟩
  | cons c r ih =>
    unfold find?
    cases hc : if c = '$' then reference? r else none with
    | some x =>
      obtain ⟨p, rest⟩ := x
      split_ifs at hc with hdollar
      obtain ⟨here, rfl⟩ := (reference?_eq_some_iff.mp hc).suffix
      rw [hdollar, parse_cons_of_reference hc]
      refine .inr ⟨[], '$' :: here, rest, p, rfl, ?_, rfl⟩
      simp [Nat.add_assoc, Nat.add_comm 1]
    | none =>
      rw [parse_cons_of_no_reference hc]
      obtain ⟨hfind, hparse⟩ | ⟨before, here, rest, p, rfl, hfind, hparse⟩ := ih (position + 1)
      · exact .inl ⟨hfind, congrArg (.char c :: ·) hparse⟩
      · refine .inr ⟨c :: before, here, rest, p, rfl, ?_, congrArg (.char c :: ·) hparse⟩
        rw [hfind]
        simp [Nat.add_assoc, Nat.add_comm 1]

/-- The text that a part stands for, if it has one. -/
def Piece.text? (vars : String → Option String) : Piece → Option (List Char)
  | .char c => some [c]
  | .variable name => (vars (String.ofList name)).map String.toList

/-- What parts come to: their texts one after another, or the first variable without a value. -/
def ComesTo (vars : String → Option String) (ps : List Piece) : Except UnknownVariable String → Prop
  | .ok s => (∀ p ∈ ps, p.text? vars ≠ none) ∧
      s.toList = ps.flatMap fun p => (p.text? vars).getD []
  | .error e => ∃ before name after, ps = before ++ .variable name :: after ∧
      e.name = String.ofList name ∧ vars e.name = none ∧
      ∀ p ∈ before, p.text? vars ≠ none

section Fill

variable {vars vars' : String → Option String} {ps : List Piece}

theorem fill_cons_of_text? {p : Piece} {t : List Char} (h : p.text? vars = some t)
    (ps : List Piece) : fill vars (p :: ps) = (fill vars ps).map (t ++ ·) := by
  match p with
  | .char c =>
    cases h
    rfl
  | .variable name =>
    obtain ⟨v, hv, rfl⟩ := Option.map_eq_some_iff.mp h
    rw [fill, hv]

theorem fill_cons_of_no_text? {p : Piece} (h : p.text? vars = none) (ps : List Piece) :
    ∃ name, p = .variable name ∧ vars (String.ofList name) = none ∧
      fill vars (p :: ps) = .error ⟨String.ofList name⟩ := by
  match p with
  | .char c => cases h
  | .variable name =>
    have hv : vars (String.ofList name) = none := Option.map_eq_none_iff.mp h
    exact ⟨name, rfl, hv, by rw [fill, hv]⟩

theorem comesTo_fill (vars : String → Option String) (ps : List Piece) :
    ComesTo vars ps ((fill vars ps).map String.ofList) := by
  induction ps with
  | nil => exact ⟨by simp, rfl⟩
  | cons p ps ih =>
    cases ht : p.text? vars with
    | none =>
      obtain ⟨name, rfl, hv, hfill⟩ := fill_cons_of_no_text? ht ps
      rw [hfill]
      exact ⟨[], name, ps, rfl, rfl, hv, by simp⟩
    | some t =>
      have hp : p.text? vars ≠ none := by
        rw [ht]
        exact Option.some_ne_none t
      rw [fill_cons_of_text? ht]
      cases hfill : fill vars ps with
      | ok s =>
        rw [hfill] at ih
        obtain ⟨hps, hs⟩ := ih
        refine ⟨List.forall_mem_cons.mpr ⟨hp, hps⟩, ?_⟩
        rw [String.toList_ofList] at hs
        rw [List.flatMap_cons, ht, ← hs]
        exact String.toList_ofList
      | error e =>
        rw [hfill] at ih
        obtain ⟨before, name, after, rfl, he, hv, hbefore⟩ := ih
        exact ⟨p :: before, name, after, rfl, he, hv, List.forall_mem_cons.mpr ⟨hp, hbefore⟩⟩

/-- The variables that parts name decide what they come to. -/
theorem fill_congr (h : ∀ name, .variable name ∈ ps →
    vars' (String.ofList name) = vars (String.ofList name)) : fill vars' ps = fill vars ps := by
  induction ps with
  | nil => rfl
  | cons p ps ih =>
    have hps := ih fun name hname => h name (List.mem_cons_of_mem p hname)
    match p with
    | .char c => rw [fill, fill, hps]
    | .variable name => rw [fill, fill, h name List.mem_cons_self, hps]

theorem fill_map_char_append (vars : String → Option String) (s : List Char) (ps : List Piece) :
    fill vars (s.map .char ++ ps) = (fill vars ps).map (s ++ ·) := by
  induction s with
  | nil => cases h : fill vars ps <;> simp [h, Except.map]
  | cons c s ih =>
    rw [List.map_cons, List.cons_append, fill, ih]
    cases fill vars ps <;> rfl

theorem fill_cons (vars : String → Option String) (p : Piece) (ps : List Piece) :
    fill vars (p :: ps) =
      (p.expand vars).bind fun value => (fill vars ps).map (value ++ ·) := by
  match p with
  | .char c => rfl
  | .variable name =>
    rw [fill, Piece.expand]
    cases vars (String.ofList name) <;> rfl

theorem addMatch_between (vars : String → Option String) (done before here rest out : List Char)
    (p : Piece) : addMatch vars (done ++ (before ++ here ++ rest)) (out, done.length)
        ⟨done.length + before.length, done.length + (before ++ here).length, p⟩ =
      (p.expand vars).map fun value =>
        (out ++ before ++ value, done.length + (before ++ here).length) := by
  unfold addMatch
  cases p.expand vars with
  | error e => rfl
  | ok value => simp [Except.map, bind, Except.bind, pure, Except.pure]

/-- The loop over the references in the rest of a text, once it has dealt with the text before, adds
what the parts of the rest stand for. -/
theorem foldlM_findAll (vars : String → Option String) (done out s : List Char) :
    ((findAll done.length s).foldlM (addMatch vars (done ++ s)) (out, done.length)).map
        (fun x => x.1 ++ (done ++ s).drop x.2) =
      (fill vars (parse s)).map (out ++ ·) := by
  induction hlength : s.length using Nat.strong_induction_on generalizing done out s with
  | _ n ih =>
    subst hlength
    obtain ⟨hfind, hparse⟩ | ⟨before, here, rest, p, rfl, hfind, hparse⟩ := find?_cases done.length s
    · have hfill := fill_map_char_append vars s []
      rw [List.append_nil] at hfill
      rw [findAll_of_none hfind, hparse, hfill]
      simp [fill, Except.map, pure, Except.pure]
    · rw [findAll_of_some hfind, hparse, fill_map_char_append, fill_cons, List.foldlM_cons,
        addMatch_between]
      cases p.expand vars with
      | error e => rfl
      | ok value =>
        have hrest := ih rest.length (length_find? hfind) (done ++ (before ++ here))
          (out ++ before ++ value) rest rfl
        rw [List.append_assoc done, List.length_append] at hrest
        refine hrest.trans ?_
        cases fill vars (parse rest) <;> simp [Except.map, Except.bind]

theorem expand_eq_fill (vars : String → Option String) (text : String) :
    expand vars text = (fill vars (parse text.toList)).map String.ofList := by
  have hloop : expand vars text =
      (((findAll 0 text.toList).foldlM (addMatch vars text.toList) ([], 0)).map
        fun x => x.1 ++ text.toList.drop x.2).map String.ofList := by
    rw [expand]
    cases (findAll 0 text.toList).foldlM (addMatch vars text.toList) ([], 0) <;> rfl
  have hfill : (fill vars (parse text.toList)).map ([] ++ ·) = fill vars (parse text.toList) := by
    cases fill vars (parse text.toList) <;> rfl
  rw [hloop, ← hfill]
  exact congrArg (Except.map String.ofList) (foldlM_findAll vars [] [] text.toList)

end Fill

namespace ComesTo

variable {vars : String → Option String} {ps : List Piece}

theorem find?_of_ne_none (h : ∀ p ∈ ps, p.text? vars ≠ none) :
    ps.find? (fun p => (p.text? vars).isNone) = none := by
  rw [List.find?_eq_none]
  intro p hp
  rw [Option.isNone_iff_eq_none]
  exact h p hp

theorem find?_of_error {e : UnknownVariable} (h : ComesTo vars ps (.error e)) :
    ps.find? (fun p => (p.text? vars).isNone) = some (.variable e.name.toList) := by
  obtain ⟨before, name, after, rfl, he, hv, hbefore⟩ := h
  rw [he] at hv
  rw [List.find?_append, find?_of_ne_none hbefore, he, String.toList_ofList]
  simp [Piece.text?, hv]

/-- Parts come to one thing only, since a fault is that of the first part without a text. -/
theorem unique {x y : Except UnknownVariable String} (hx : ComesTo vars ps x)
    (hy : ComesTo vars ps y) : x = y := by
  match x, y with
  | .ok s, .ok t =>
    have h : s.toList = t.toList := hx.2.trans hy.2.symm
    rw [String.toList_inj.mp h]
  | .ok s, .error e =>
    have h := find?_of_ne_none hx.1
    rw [hy.find?_of_error] at h
    cases h
  | .error e, .ok t =>
    have h := find?_of_ne_none hy.1
    rw [hx.find?_of_error] at h
    cases h
  | .error ⟨m⟩, .error ⟨n⟩ =>
    have h := hx.find?_of_error
    rw [hy.find?_of_error, Option.some.injEq, Piece.variable.injEq] at h
    have hname : n = m := String.toList_inj.mp h
    rw [hname]

end ComesTo

theorem expand_eq_of_comesTo {vars : String → Option String} {text : String} {ps : List Piece}
    (hps : Scans text.toList ps) {x : Except UnknownVariable String} (hx : ComesTo vars ps x) :
    expand vars text = x := by
  have hfill : ComesTo vars ps (expand vars text) := by
    rw [hps.eq_parse, expand_eq_fill]
    exact comesTo_fill vars _
  exact hfill.unique hx

/-- Every text has one list of parts by the rules. It expands to what these come to, whatever the
values are, and only the values of variables that they name have a part in that. -/
theorem expand_eq_iff_comesTo (text : String) : ∃ ps, Scans text.toList ps ∧
    (∀ ps', Scans text.toList ps' → ps' = ps) ∧
    ∀ vars, (∀ x, expand vars text = x ↔ ComesTo vars ps x) ∧
      ∀ vars', (∀ name, .variable name ∈ ps →
        vars' (String.ofList name) = vars (String.ofList name)) →
        expand vars' text = expand vars text := by
  refine ⟨parse text.toList, scans_parse _, fun _ h => h.eq_parse, fun vars => ⟨fun x => ?_, ?_⟩⟩
  · constructor
    · rintro rfl
      rw [expand_eq_fill]
      exact comesTo_fill vars _
    · exact expand_eq_of_comesTo (scans_parse _)
  · intro vars' h
    rw [expand_eq_fill, expand_eq_fill, fill_congr h]

end WebTestbed.Template
