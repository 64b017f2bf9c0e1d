import WebTestbed.Directive.Document
import WebTestbed.Proofs.Text.Basic
import Mathlib.Data.List.Infix

/-! Documents that are edited: their lines hold no line feeds, and what edits add is the same
wherever they start, but that it stands as deep as what is there. -/
namespace WebTestbed.Document

def Unbroken (d : Document) : Prop :=
  ∀ l ∈ d.lines, '\n' ∉ l.toList

section Lines

theorem toList_indent (depth : Nat) (line : String) :
    (indent depth line).toList = List.replicate (2 * depth) ' ' ++ line.toList := by
  rw [indent, String.toList_append, String.toList_ofList]

theorem indent_indent (a b : Nat) (line : String) :
    indent a (indent b line) = indent (a + b) line := by
  have hspaces : List.replicate (2 * a) ' ' ++ List.replicate (2 * b) ' ' =
      List.replicate (2 * (a + b)) ' ' := by
    rw [List.replicate_append_replicate, Nat.mul_add]
  apply String.toList_inj.mp
  rw [toList_indent, toList_indent, toList_indent, ← List.append_assoc, hspaces]

theorem lineFeed_not_mem_indent {line : String} (h : '\n' ∉ line.toList) (depth : Nat) :
    '\n' ∉ (indent depth line).toList := by
  rw [toList_indent, List.mem_append]
  rintro (hm | hm)
  · exact absurd (List.eq_of_mem_replicate hm) (by decide)
  · exact h hm

theorem lineFeed_not_mem_linesOf {texts : List String} {l : String} (h : l ∈ linesOf texts) :
    '\n' ∉ l.toList := by
  obtain ⟨t, -, ht⟩ := List.mem_flatMap.mp h
  obtain ⟨p, hp, rfl⟩ := List.mem_map.mp ht
  rw [String.toList_ofList]
  exact Text.not_mem_of_mem_pieces hp

theorem linesOf_append (a b : List String) : linesOf (a ++ b) = linesOf a ++ linesOf b :=
  List.flatMap_append

/-- Texts that are joined by line feeds have the lines of all of them. -/
theorem linesOf_joinWith {texts : List String} (h : texts ≠ []) :
    linesOf [Text.joinWith "\n" texts] = linesOf texts := by
  rw [linesOf, List.flatMap_singleton, Text.piecesString_joinWith_eq_flatMap rfl h, linesOf]

/-- Line feeds in texts start lines of their own. -/
theorem Unbroken.add {d : Document} (h : d.Unbroken) (texts : List String) :
    (d.add texts).Unbroken := by
  intro l hl
  rcases List.mem_append.mp hl with hl | hl
  · exact h l hl
  · obtain ⟨line, hline, rfl⟩ := List.mem_map.mp hl
    exact lineFeed_not_mem_indent (lineFeed_not_mem_linesOf hline) d.depth

theorem foldl_add_singleton (d : Document) (texts : List String) :
    texts.foldl (fun d t => d.add [t]) d = d.add texts := by
  induction texts generalizing d with
  | nil => simp [add, linesOf]
  | cons t texts ih => rw [List.foldl_cons, ih, add_append, List.singleton_append]

theorem add_joinWith (d : Document) {texts : List String} (h : texts ≠ []) :
    d.add [Text.joinWith "\n" texts] = d.add texts := by
  simp only [add, linesOf_joinWith h]

end Lines

inductive Edit where
  | add (texts : List String)
  | push
  | pop
  deriving DecidableEq, Repr

def edit (d : Document) : Edit → Except BlockFault Document
  | .add texts => .ok (d.add texts)
  | .push => .ok d.push
  | .pop => d.pop

/-- Makes the edits in their order, up to the first that does not fit. -/
def edits (d : Document) (es : List Edit) : Except BlockFault Document :=
  es.foldlM edit d

/-- Edits that close no block but those that they open. -/
def Contained (es : List Edit) : Prop :=
  ∀ before, before <+: es → before.count .pop ≤ before.count .push

instance : DecidablePred Contained := fun es =>
  decidable_of_iff (∀ before ∈ es.inits, before.count .pop ≤ before.count .push) (by
    simp only [Contained, List.mem_inits])

/-- The document `e` at the end of `d`, inside the blocks that are open there. -/
def nest (d e : Document) : Document :=
  ⟨d.lines ++ e.lines.map (indent d.depth), d.depth + e.depth⟩

section Edits

variable {d e e' : Document} {x : Edit} {es : List Edit}

theorem nest_empty (d : Document) : d.nest empty = d := by
  simp [nest, empty]

theorem nest_add (d e : Document) (texts : List String) :
    d.nest (e.add texts) = (d.nest e).add texts := by
  have hindent : indent d.depth ∘ indent e.depth = indent (d.depth + e.depth) :=
    funext (indent_indent d.depth e.depth)
  simp [nest, add, hindent]

theorem Unbroken.nest (hd : d.Unbroken) (he : e.Unbroken) : (d.nest e).Unbroken := by
  intro l hl
  rcases List.mem_append.mp hl with hl | hl
  · exact hd l hl
  · obtain ⟨line, hline, rfl⟩ := List.mem_map.mp hl
    exact lineFeed_not_mem_indent (he line hline) d.depth

/-- All that an edit can do. -/
theorem edit_cases (h : e.edit x = .ok e') :
    (∃ texts, x = .add texts ∧ e' = e.add texts) ∨ (x = .push ∧ e' = e.push) ∨
      (x = .pop ∧ e.depth ≠ 0 ∧ e' = e.leave) := by
  cases x with
  | add texts => exact .inl ⟨texts, rfl, (Except.ok.inj h).symm⟩
  | push => exact .inr (.inl ⟨rfl, (Except.ok.inj h).symm⟩)
  | pop =>
    simp only [edit, pop] at h
    split at h
    · cases h
    · next hdepth => exact .inr (.inr ⟨rfl, hdepth, (Except.ok.inj h).symm⟩)

/-- An edit does the same inside the blocks of another document. -/
theorem edit_nest (d : Document) (h : e.edit x = .ok e') :
    (d.nest e).edit x = .ok (d.nest e') := by
  rcases edit_cases h with ⟨texts, rfl, rfl⟩ | ⟨rfl, rfl⟩ | ⟨rfl, hdepth, rfl⟩
  · rw [nest_add]
    rfl
  · rfl
  · have hnested : (d.nest e).depth = d.depth + e.depth := rfl
    have hleave : (d.nest e).leave = d.nest e.leave := by
      simp only [leave, nest, Document.mk.injEq, true_and]
      omega
    rw [edit, pop, if_neg (by omega), hleave]

theorem unbroken_of_edit (h : e.edit x = .ok e') (he : e.Unbroken) : e'.Unbroken := by
  rcases edit_cases h with ⟨texts, rfl, rfl⟩ | ⟨rfl, rfl⟩ | ⟨rfl, -, rfl⟩
  · exact he.add texts
  · exact he
  · exact he

theorem depth_of_edit (h : e.edit x = .ok e') :
    e'.depth + [x].count .pop = e.depth + [x].count .push := by
  rcases edit_cases h with ⟨texts, rfl, rfl⟩ | ⟨rfl, rfl⟩ | ⟨rfl, hdepth, rfl⟩
  · simp
  · simp [push]
  · have hpop : [Edit.pop].count .pop = 1 := rfl
    have hpush : [Edit.pop].count .push = 0 := rfl
    have hleave : e.leave.depth = e.depth - 1 := rfl
    omega

theorem edits_cons_of_edit {m : Document} (h : e.edit x = .ok m) (es : List Edit) :
    e.edits (x :: es) = m.edits es := by
  rw [edits, List.foldlM_cons, h]
  rfl

/-- Edits that can be made lead from one document to the next. -/
theorem edits_induction {P : Document → List Edit → Document → Prop} (nil : ∀ e, P e [] e)
    (cons : ∀ e x m es e', e.edit x = .ok m → P m es e' → P e (x :: es) e')
    (h : e.edits es = .ok e') : P e es e' := by
  induction es generalizing e with
  | nil =>
    obtain rfl := Except.ok.inj h
    exact nil e
  | cons x es ih =>
    cases hx : e.edit x with
    | error f =>
      rw [edits, List.foldlM_cons, hx] at h
      cases h
    | ok m =>
      rw [edits_cons_of_edit hx] at h
      exact cons e x m es e' hx (ih h)

theorem edits_nest (d : Document) (h : e.edits es = .ok e') :
    (d.nest e).edits es = .ok (d.nest e') := by
  apply edits_induction (P := fun e es e' => (d.nest e).edits es = .ok (d.nest e')) _ _ h
  · exact fun e => rfl
  · intro e x m es e' hx hes
    rw [edits_cons_of_edit (edit_nest d hx), hes]

theorem unbroken_of_edits (he : e.Unbroken) (h : e.edits es = .ok e') : e'.Unbroken := by
  apply edits_induction (P := fun e _ e' => e.Unbroken → e'.Unbroken) _ _ h he
  · exact fun e he => he
  · intro e x m es e' hx hes he
    exact hes (unbroken_of_edit hx he)

theorem depth_of_edits (h : e.edits es = .ok e') :
    e'.depth + es.count .pop = e.depth + es.count .push := by
  apply edits_induction
    (P := fun e es e' => e'.depth + es.count .pop = e.depth + es.count .push) _ _ h
  · exact fun e => rfl
  · intro e x m es e' hx hes
    have hstep := depth_of_edit hx
    rw [← List.singleton_append, List.count_append, List.count_append]
    omega

/-- Edits fit a document exactly if they close no more blocks than are open. -/
theorem exists_edits_iff : (∃ e', e.edits es = .ok e') ↔
    ∀ before, before <+: es → before.count .pop ≤ e.depth + before.count .push := by
  constructor
  · rintro ⟨e', h⟩ before ⟨after, rfl⟩
    -- the document after the first edits has the blocks that are left
    rw [edits, List.foldlM_append] at h
    cases hm : before.foldlM edit e with
    | error f =>
      rw [hm] at h
      cases h
    | ok m =>
      have hdepth := depth_of_edits hm
      omega
  · intro h
    induction es generalizing e with
    | nil => exact ⟨e, rfl⟩
    | cons x es ih =>
      have hfits : ∃ m, e.edit x = .ok m := by
        cases x with
        | add texts => exact ⟨_, rfl⟩
        | push => exact ⟨_, rfl⟩
        | pop =>
          have hfirst : 1 ≤ e.depth := h [.pop] (by simp)
          exact ⟨e.leave, if_neg (by omega)⟩
      obtain ⟨m, hx⟩ := hfits
      have hstep := depth_of_edit hx
      rw [edits_cons_of_edit hx]
      apply ih
      intro before hbefore
      have hmore := h (x :: before) (by simpa using hbefore)
      rw [← List.singleton_append, List.count_append, List.count_append] at hmore
      omega

end Edits

/-- Adding texts adds their lines, whether they come in one list, one by one or joined by line
feeds. Edits that close no block but their own can be made in every document: they add what they add
to an empty one, as deep as the document is, and leave no line feed in a line. -/
theorem edits_anywhere :
    (∀ (d : Document) (texts : List String),
      texts.foldl (fun d t => d.add [t]) d = d.add texts ∧
      (texts ≠ [] → d.add [Text.joinWith "\n" texts] = d.add texts)) ∧
    ∀ es : List Edit, (Contained es ↔ ∃ e, empty.edits es = .ok e) ∧
      ∀ e, empty.edits es = .ok e →
        e.depth + es.count .pop = es.count .push ∧ e.Unbroken ∧
        ∀ d : Document, d.edits es = .ok (d.nest e) ∧ (d.Unbroken → (d.nest e).Unbroken) := by
  refine ⟨fun d texts => ⟨foldl_add_singleton d texts, add_joinWith d⟩, fun es => ⟨?_, ?_⟩⟩
  · have hzero : empty.depth = 0 := rfl
    rw [exists_edits_iff, hzero]
    simp only [Nat.zero_add, Contained]
  · intro e he
    have hdepth := depth_of_edits he
    have hzero : empty.depth = 0 := rfl
    have hlines : e.Unbroken := unbroken_of_edits (by simp [Unbroken, empty]) he
    refine ⟨by omega, hlines, fun d => ⟨?_, fun hd => hd.nest hlines⟩⟩
    have hnested := edits_nest d he
    rw [nest_empty] at hnested
    exact hnested

theorem edits_anywhere_deeper :
    let es : List Edit := [.add ["a\n"], .push, .add ["", "b\nc"], .push, .pop, .pop, .add []]
    Contained es ∧ ["b", "c"] ≠ [] ∧
      (⟨["x"], 2⟩ : Document).edits es =
        .ok ⟨["x", "    a", "    ", "      ", "      b", "      c"], 2⟩ ∧
      (⟨["x"], 2⟩ : Document).add ["b\nc"] = (⟨["x"], 2⟩ : Document).add ["b", "c"] := by
  intro es
  have hes : Contained es := by decide
  obtain ⟨e, he⟩ := (edits_anywhere.2 es).1.mp hes
  have hlines : empty.edits es = .ok ⟨["a", "", "  ", "  b", "  c"], 0⟩ := by decide
  obtain rfl := Except.ok.inj (hlines.symm.trans he)
  refine ⟨hes, by decide, ?_, (edits_anywhere.1 ⟨["x"], 2⟩ ["b", "c"]).2 (by decide)⟩
  exact (((edits_anywhere.2 es).2 _ he).2.2 ⟨["x"], 2⟩).1

end WebTestbed.Document
