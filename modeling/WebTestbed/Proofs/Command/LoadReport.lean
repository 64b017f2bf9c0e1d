import Mathlib.Data.List.Infix
import Mathlib.Data.List.TakeWhile
import WebTestbed.Command.LoadReport
import WebTestbed.Proofs.Lookup
import WebTestbed.Proofs.Text.Basic

/-! Counts are read back from the lines in which a load generator prints them, or not at all. -/
namespace WebTestbed.Command

/-- The counts of requests as they are printed. -/
def RequestCounts.items (r : RequestCounts) : List (Nat × String) :=
  [(r.total, " total, "), (r.started, " started, "), (r.done, " done, "),
    (r.succeeded, " succeeded, "), (r.failed, " failed, "), (r.errored, " errored, "),
    (r.timeout, " timeout")]

/-- The counts of status codes as they are printed. -/
def StatusCounts.items (s : StatusCounts) : List (Nat × String) :=
  [(s.success, " 2xx, "), (s.redirection, " 3xx, "), (s.clientError, " 4xx, "),
    (s.serverError, " 5xx")]

namespace LoadReport

variable {heading : String} {before line after s : List Char} {items : List (Nat × String)}

/-- Numbers in a line, each with its label behind it. They may start with zeros. -/
inductive Lists : List (Nat × String) → List Char → Prop
  | nil : Lists [] []
  | cons {n : Nat} {label : String} {items : List (Nat × String)} {digits line : List Char}
      (first : Numeral.read? digits = some n) (rest : Lists items line) :
      Lists ((n, label) :: items) (digits ++ label.toList ++ line)

/-- Where the heading occurs first in a text, the numbers stand behind it. -/
def Shows (text : List Char) (heading : String) (items : List (Nat × String)) : Prop :=
  ∃ before line after, text = before ++ (heading.toList ++ (line ++ after)) ∧ Lists items line ∧
    ¬ heading.toList <:+: before

/-- All numbers fit in 64 bits. -/
def Fits (items : List (Nat × String)) : Prop :=
  ∀ e ∈ items, e.1 < UInt64.size

instance (items : List (Nat × String)) : Decidable (Fits items) :=
  inferInstanceAs (Decidable (∀ e ∈ items, e.1 < UInt64.size))

theorem fits_cons {e : Nat × String} : Fits (e :: items) ↔ e.1 < UInt64.size ∧ Fits items :=
  List.forall_mem_cons

theorem dropStart?_eq_some_iff {p r : List Char} : dropStart? p s = some r ↔ s = p ++ r := by
  induction p generalizing s with
  | nil => simp [dropStart?]
  | cons c p ih =>
    cases s with
    | nil => simp [dropStart?]
    | cons d s =>
      by_cases hd : d = c
      · simp [dropStart?, hd, ih]
      · simp [dropStart?, hd]

theorem runsBefore?_cons {n : Nat} {label : String} {labels : List String} {digits : List Char}
    (hn : Numeral.read? digits = some n) (hlabel : label.toList.head? = some ' ') (s : List Char) :
    runsBefore? (label :: labels) (digits ++ (label.toList ++ s)) =
      (runsBefore? labels s).map (digits :: ·) := by
  obtain ⟨r, hr⟩ := List.head?_eq_some_iff.mp hlabel
  have hblank : Text.isAnyDigit ' ' = false := by decide +kernel
  have hdigits : ∀ d ∈ digits, Text.isAnyDigit d = true := fun d hd => by
    rw [Text.isAnyDigit, Numeral.isDigit_of_read? hn d hd, Bool.true_or]
  have htake : (digits ++ (label.toList ++ s)).takeWhile Text.isAnyDigit = digits := by
    rw [List.takeWhile_append_of_pos hdigits, hr, List.cons_append,
      List.takeWhile_cons_of_neg (by simp [hblank]), List.append_nil]
  have hdrop : (digits ++ (label.toList ++ s)).dropWhile Text.isAnyDigit = label.toList ++ s := by
    rw [List.dropWhile_append_of_pos hdigits, hr, List.cons_append,
      List.dropWhile_cons_of_neg (by simp [hblank])]
  have hne : digits.isEmpty = false := by
    cases digits with
    | nil => cases hn
    | cons => rfl
  have hrest : dropStart? label.toList (label.toList ++ s) = some s :=
    dropStart?_eq_some_iff.mpr rfl
  rw [runsBefore?]
  simp only [htake, hdrop, hne, hrest, Bool.false_eq_true, if_false, Option.bind_eq_bind,
    Option.bind_some]
  cases runsBefore? labels s <;> rfl

theorem counts?_cons {n : Nat} {digits : List Char} (hn : Numeral.read? digits = some n)
    (runs : List (List Char)) :
    counts? (digits :: runs) = if n < UInt64.size then (counts? runs).map (n :: ·) else none := by
  have hread : Numeral.signedRead? Numeral.max64 digits =
      if n < UInt64.size then some n else none := by
    rw [Numeral.signedRead?_of_read? hn]
    exact if_congr Nat.lt_succ_iff.symm rfl rfl
  unfold counts?
  rw [List.mapM_cons, hread]
  split
  · cases List.mapM (Numeral.signedRead? Numeral.max64) runs <;> rfl
  · rfl

/-- The numbers of a line are read, and count if all of them fit. -/
theorem Lists.exists_runs (h : Lists items line)
    (hlabels : ∀ label ∈ items.map (·.2), label.toList.head? = some ' ') (after : List Char) :
    ∃ runs, runsBefore? (items.map (·.2)) (line ++ after) = some runs ∧
      counts? runs = if Fits items then some (items.map (·.1)) else none := by
  induction h with
  | nil => exact ⟨[], rfl, rfl⟩
  | @cons n label items digits line first rest ih =>
    obtain ⟨hlabel, hlabels⟩ := List.forall_mem_cons.mp hlabels
    obtain ⟨runs, hruns, hcounts⟩ := ih hlabels
    refine ⟨digits :: runs, ?_, ?_⟩
    · rw [List.map_cons, List.append_assoc, List.append_assoc, runsBefore?_cons first hlabel, hruns,
        Option.map_some]
    · rw [counts?_cons first, hcounts]
      by_cases hn : n < UInt64.size
      · rw [if_pos hn]
        by_cases hfits : Fits items
        · rw [if_pos hfits, if_pos (fits_cons.mpr ⟨hn, hfits⟩)]
          rfl
        · rw [if_neg hfits, if_neg fun h => hfits (fits_cons.mp h).2]
          rfl
      · rw [if_neg hn, if_neg fun h => hn (fits_cons.mp h).1]

/-- A heading whose start is nowhere else in it. -/
def Unbordered (s : List Char) : Prop :=
  ∀ b, b <:+ s → b <+: s → b = [] ∨ b = s

instance (s : List Char) : Decidable (Unbordered s) :=
  decidable_of_iff (∀ b ∈ s.tails, b <+: s → b = [] ∨ b = s) (by simp [Unbordered])

/-- A heading without a border does not reach out of the text before it. -/
theorem infix_of_prefix_append {p : List Char} (hp : Unbordered p) {b : List Char}
    (hb : b ≠ []) (h : p <+: b ++ (p ++ s)) : p <+: b := by
  obtain ⟨r, hr⟩ := h
  obtain ⟨a, ha, -⟩ | ⟨a, ha, hrest⟩ := List.append_eq_append_iff.mp hr
  · exact ⟨a, ha.symm⟩
  · -- what reaches out would be a border
    have hsuffix : a <:+ p := ⟨b, ha.symm⟩
    have hprefix : a <+: p :=
      List.prefix_of_prefix_length_le ⟨r, hrest.symm⟩ (List.prefix_append p s) hsuffix.length_le
    obtain rfl | rfl := hp a hsuffix hprefix
    · rw [List.append_nil] at ha
      rw [ha]
    · have hlength := congrArg List.length ha
      rw [List.length_append] at hlength
      exact absurd (List.length_eq_zero_iff.mp (by omega)) hb

/-- The first place where the heading stands tells the runs. -/
theorem findRuns?_eq_some {labels : List String} {runs : List (List Char)}
    (hne : heading.toList ≠ []) (hheading : Unbordered heading.toList)
    (hbefore : ¬ heading.toList <:+: before) (hruns : runsBefore? labels s = some runs) :
    findRuns? heading labels (before ++ (heading.toList ++ s)) = some runs := by
  induction before with
  | nil =>
    have hdrop : dropStart? heading.toList (heading.toList ++ s) = some s :=
      dropStart?_eq_some_iff.mpr rfl
    obtain ⟨c, r, hc⟩ := List.exists_cons_of_ne_nil (List.append_ne_nil_of_left_ne_nil hne s)
    rw [List.nil_append, hc, findRuns?, ← hc, hdrop, Option.bind_some, hruns, Option.some_or]
  | cons c before ih =>
    have hnone : dropStart? heading.toList (c :: (before ++ (heading.toList ++ s))) = none := by
      rw [Option.eq_none_iff_forall_not_mem]
      intro r hr
      have hprefix := infix_of_prefix_append hheading (List.cons_ne_nil c before)
        ⟨r, (dropStart?_eq_some_iff.mp hr).symm⟩
      exact hbefore hprefix.isInfix
    rw [List.cons_append, findRuns?, hnone, Option.bind_none, Option.none_or]
    exact ih fun hinfix => hbefore (List.infix_cons hinfix)

theorem Shows.exists_runs {text : List Char} (h : Shows text heading items)
    (hne : heading.toList ≠ []) (hheading : Unbordered heading.toList)
    (hlabels : ∀ label ∈ items.map (·.2), label.toList.head? = some ' ') :
    ∃ runs, findRuns? heading (items.map (·.2)) text = some runs ∧
      counts? runs = if Fits items then some (items.map (·.1)) else none := by
  obtain ⟨before, line, after, rfl, hline, hbefore⟩ := h
  obtain ⟨runs, hruns, hcounts⟩ := hline.exists_runs hlabels after
  exact ⟨runs, findRuns?_eq_some hne hheading hbefore hruns, hcounts⟩

theorem readRequests?_of_shows {r : RequestCounts} (h : Shows s "requests: " r.items) :
    readRequests? s = if Fits r.items then some r else none := by
  obtain ⟨runs, hruns, hcounts⟩ := h.exists_runs (by decide) (by decide)
    (by decide : ∀ label ∈ requestLabels, label.toList.head? = some ' ')
  have hfind : findRuns? "requests: " requestLabels s = some runs := hruns
  unfold readRequests?
  simp only [hfind, hcounts, Option.bind_eq_bind, Option.bind_some]
  split <;> rfl

theorem readStatuses?_of_shows {c : StatusCounts} (h : Shows s "status codes: " c.items) :
    readStatuses? s = if Fits c.items then some c else none := by
  obtain ⟨runs, hruns, hcounts⟩ := h.exists_runs (by decide) (by decide)
    (by decide : ∀ label ∈ statusLabels, label.toList.head? = some ' ')
  have hfind : findRuns? "status codes: " statusLabels s = some runs := hruns
  unfold readStatuses?
  simp only [hfind, hcounts, Option.bind_eq_bind, Option.bind_some]
  split <;> rfl

theorem set_eq_putAt (name : String) (v : Json.Value) (fields : Json.Fields) :
    Json.Fields.set name v fields = putAt name v fields := by
  induction fields with
  | nil => rfl
  | cons f fields ih => rw [Json.Fields.set, putAt, ih]

/-- A report is kept among the results under its name; nothing else changes. -/
theorem attach_eq (result : Result) :
    attach result = { result with results :=
      match (read? result.stdout).map toJson with
      | none => result.results
      | some v => result.results.set key v } := by
  unfold attach
  cases read? result.stdout <;> rfl

/-- What is printed is read back: all counts of requests under their names, with those of status
codes if they fit in 64 bits too, or nothing if one of the requests does not. Attaching the report
changes no other result. -/
theorem read?_of_shows {r : RequestCounts} {c : StatusCounts} {text : String}
    (hr : Shows text.toList "requests: " r.items)
    (hc : Shows text.toList "status codes: " c.items) :
    (read? text).map toJson =
      (if Fits r.items then
        some (.object (("requests", .object [("total", .number (.whole r.total)),
            ("started", .number (.whole r.started)), ("done", .number (.whole r.done)),
            ("succeeded", .number (.whole r.succeeded)), ("failed", .number (.whole r.failed)),
            ("errored", .number (.whole r.errored)), ("timeout", .number (.whole r.timeout))]) ::
          if Fits c.items then
            [("status", .object [("2xx", .number (.whole c.success)),
              ("3xx", .number (.whole c.redirection)), ("4xx", .number (.whole c.clientError)),
              ("5xx", .number (.whole c.serverError))])]
          else []))
      else none) ∧
    ∀ result : Result,
      attach result = { result with results := (attach result).results } ∧
      ∀ name, (attach result).results.lookup name =
        if name = "h2load" then ((read? result.stdout).map toJson).or (result.results.lookup name)
        else result.results.lookup name := by
  constructor
  · have hread : read? text = if Fits r.items then
        some ⟨r, if Fits c.items then some c else none⟩ else none := by
      unfold read?
      rw [readRequests?_of_shows hr, readStatuses?_of_shows hc]
      split <;> rfl
    rw [hread]
    by_cases hfits : Fits r.items
    · rw [if_pos hfits, if_pos hfits]
      by_cases hfits' : Fits c.items
      · rw [if_pos hfits', if_pos hfits']
        rfl
      · rw [if_neg hfits', if_neg hfits']
        rfl
    · rw [if_neg hfits, if_neg hfits]
      rfl
  · intro result
    have hattach := attach_eq result
    refine ⟨by rw [hattach], fun name => ?_⟩
    rw [hattach]
    cases (read? result.stdout).map toJson with
    | none => rw [Option.none_or, ite_self]
    | some v => exact (congrArg (·.lookup name) (set_eq_putAt _ _ _)).trans (lookup_putAt _ _ _ _)

/-- Counts of status codes that stand first, one of them too large. -/
theorem read?_of_shows_without_statuses :
    let statusLine := "status codes: 1 2xx, 0 3xx, 18446744073709551616 4xx, 0 5xx\n"
    let requestLine :=
      "requests: 2 total, 02 started, 1 done, 1 succeeded, 0 failed, 0 errored, 3 timeout"
    let text := statusLine ++ requestLine
    let r : RequestCounts := ⟨2, 2, 1, 1, 0, 0, 3⟩
    let c : StatusCounts := ⟨1, 0, 18446744073709551616, 0⟩
    Shows text.toList "requests: " r.items ∧ Shows text.toList "status codes: " c.items ∧
      (read? text).map toJson = some (.object [("requests", .object
        [("total", .number (.whole 2)), ("started", .number (.whole 2)),
          ("done", .number (.whole 1)), ("succeeded", .number (.whole 1)),
          ("failed", .number (.whole 0)), ("errored", .number (.whole 0)),
          ("timeout", .number (.whole 3))])]) := by
  intro statusLine requestLine text r c
  have htext : text.toList = statusLine.toList ++ requestLine.toList := String.toList_append
  have hr : Shows text.toList "requests: " r.items := by
    have hline := @Lists.cons 2 " total, " _ ['2'] _ (by rfl) <|
      @Lists.cons 2 " started, " _ ['0', '2'] _ (by rfl) <|
      @Lists.cons 1 " done, " _ ['1'] _ (by rfl) <|
      @Lists.cons 1 " succeeded, " _ ['1'] _ (by rfl) <|
      @Lists.cons 0 " failed, " _ ['0'] _ (by rfl) <|
      @Lists.cons 0 " errored, " _ ['0'] _ (by rfl) <|
      @Lists.cons 3 " timeout" _ ['3'] _ (by rfl) .nil
    have hother : 'q' ∉ statusLine.toList := by decide +kernel
    refine ⟨statusLine.toList, _, [], htext.trans (congrArg _ ?_), hline, ?_⟩
    · decide +kernel
    · exact fun h => hother (h.subset (by decide))
  have hc : Shows text.toList "status codes: " c.items := by
    have hline := @Lists.cons 1 " 2xx, " _ ['1'] _ (by rfl) <|
      @Lists.cons 0 " 3xx, " _ ['0'] _ (by rfl) <|
      @Lists.cons 18446744073709551616 " 4xx, " _ "18446744073709551616".toList _ (by rfl) <|
      @Lists.cons 0 " 5xx" _ ['0'] _ (by rfl) .nil
    refine ⟨[], _, '\n' :: requestLine.toList, ?_, hline, by decide⟩
    rw [htext, List.nil_append, List.append_cons _ '\n', ← List.append_assoc]
    refine congrArg (· ++ requestLine.toList) ?_
    decide +kernel
  refine ⟨hr, hc, (read?_of_shows hr hc).1.trans ?_⟩
  rw [if_pos (by decide), if_neg (by decide)]
  rfl

end LoadReport

end WebTestbed.Command
