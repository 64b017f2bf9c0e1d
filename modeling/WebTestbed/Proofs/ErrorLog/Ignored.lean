import WebTestbed.Proofs.ErrorLog.Line
import WebTestbed.Proofs.ErrorLog.Missed

/-! What is reported under settings that ignore modules, numbers and patterns: a line is what its
first tag says, a number hides the lines that carry it last, and to ignore more is to report less. -/
namespace WebTestbed

namespace ErrorLog

namespace Ignored

variable {i j : Ignored} {l : String} {v : Severity}

theorem hides_eq_false_iff : i.hides l = false ↔
    (∀ p ∈ i.patterns, p.occursIn l = false) ∧
    ∀ before n, LastNumber l.toList before n.toList → n ∉ i.numbers := by
  have hnumbers : (number? l).any i.numbers.contains = false ↔
      ∀ before n, LastNumber l.toList before n.toList → n ∉ i.numbers := by
    simp only [Option.any_eq_false, List.contains_eq_mem, decide_eq_false_iff_not,
      number?_eq_some_iff, forall_exists_index]
    exact forall_comm
  rw [hides, Bool.or_eq_false_iff, hnumbers, List.any_eq_false]
  simp only [Bool.not_eq_true]

/-- A line is reported as the severity of its first tag, if nothing that is ignored hides it. -/
theorem classify_eq_some_iff : i.classify l = some v ↔
    i.hides l = false ∧
    ∃ before t after, FirstTag l.toList before t after ∧ t.module ∉ i.modules ∧ t.severity = v := by
  unfold classify
  constructor
  · intro h
    split at h
    · cases h
    · next hhides =>
      refine ⟨by simpa using hhides, ?_⟩
      split at h
      · cases h
      · next t after htag =>
        split at h
        · cases h
        · next hmodule =>
          obtain ⟨before, hfirst⟩ := tag?_eq_some_iff.mp htag
          exact ⟨before, t, after, hfirst, by simpa using hmodule, Option.some.inj h⟩
  · rintro ⟨hhides, before, t, after, hfirst, hmodule, rfl⟩
    have htag := tag?_eq_some_iff.mpr ⟨before, hfirst⟩
    simp [hhides, htag, hmodule]

/-- Of the ignored numbers, all that counts for a line is whether its last number is one of them. -/
theorem classify_eq_some_iff_numbers : i.classify l = some v ↔
    ({ i with numbers := [] } : Ignored).classify l = some v ∧
      ∀ before n, LastNumber l.toList before n.toList → n ∉ i.numbers := by
  simp only [classify_eq_some_iff, hides_eq_false_iff, List.not_mem_nil, not_false_eq_true,
    implies_true, and_true]
  tauto

/-- All that the first settings ignore is ignored by the second. -/
structure Within (i j : Ignored) : Prop where
  modules : i.modules ⊆ j.modules
  numbers : i.numbers ⊆ j.numbers
  patterns : i.patterns ⊆ j.patterns

/-- What the second settings ignore and the first do not can hide the line: a pattern that occurs in
it, a number that it carries, or the module of its first tag. -/
def AddedHides (i j : Ignored) (l : String) : Prop :=
  (∃ p ∈ j.patterns, p ∉ i.patterns ∧ p.occursIn l = true) ∨
  (∃ n ∈ j.numbers, n ∉ i.numbers ∧ ∃ before, Carries l.toList before n.toList) ∨
  ∃ before t after, FirstTag l.toList before t after ∧ t.module ∈ j.modules ∧ t.module ∉ i.modules

theorem Within.hides (h : i.Within j) (hl : j.hides l = false) : i.hides l = false := by
  rw [hides_eq_false_iff] at hl ⊢
  exact ⟨fun p hp => hl.1 p (h.patterns hp),
    fun before n hn hmem => hl.2 before n hn (h.numbers hmem)⟩

theorem Within.classify (h : i.Within j) (hl : j.classify l = some v) : i.classify l = some v := by
  rw [classify_eq_some_iff] at hl ⊢
  obtain ⟨hhides, before, t, after, hfirst, hmodule, hv⟩ := hl
  exact ⟨h.hides hhides, before, t, after, hfirst, fun hm => hmodule (h.modules hm), hv⟩

theorem addedHides_of_hides (hi : i.hides l = false) (hj : j.hides l = true) :
    AddedHides i j l := by
  rw [hides_eq_false_iff] at hi
  by_contra hadded
  refine absurd hj (Bool.not_eq_true _ ▸ hides_eq_false_iff.mpr ⟨fun p hp => ?_, ?_⟩)
  · by_contra hoccurs
    rw [Bool.not_eq_false] at hoccurs
    have hpi : p ∉ i.patterns := fun hmem => by
      rw [hi.1 p hmem] at hoccurs
      cases hoccurs
    exact hadded (.inl ⟨p, hp, hpi, hoccurs⟩)
  · intro before n hn hmem
    exact hadded (.inr (.inl ⟨n, hmem, hi.2 before n hn, before, hn.toCarries⟩))

/-- A line that more ignoring hides is hidden by what was added. -/
theorem addedHides_of_classify_ne (hi : i.classify l = some v) (hj : j.classify l ≠ some v) :
    AddedHides i j l := by
  obtain ⟨hhides, before, t, after, hfirst, hmodule, hv⟩ := classify_eq_some_iff.mp hi
  cases hjhides : j.hides l with
  | true => exact addedHides_of_hides hhides hjhides
  | false =>
    by_cases hjmodule : t.module ∈ j.modules
    · exact .inr (.inr ⟨before, t, after, hfirst, hjmodule, hmodule⟩)
    · exact absurd (classify_eq_some_iff.mpr ⟨hjhides, before, t, after, hfirst, hjmodule, hv⟩) hj

theorem Within.filter_eq (h : i.Within j) (v : Severity) (ls : List String) :
    ls.filter (j.classify · = some v) =
      (ls.filter (i.classify · = some v)).filter (fun l => j.classify l = i.classify l) := by
  rw [List.filter_filter]
  refine List.filter_congr fun l _ => ?_
  by_cases hj : j.classify l = some v
  · simp [hj, h.classify hj]
  · by_cases hi : i.classify l = some v <;> simp [hi, hj]

theorem Within.filter_sublist (h : i.Within j) (v : Severity) (ls : List String) :
    (ls.filter (j.classify · = some v)).Sublist (ls.filter (i.classify · = some v)) := by
  rw [h.filter_eq]
  exact List.filter_sublist

end Ignored

end ErrorLog

namespace Findings

/-- What is reported if these lines may be errors and those warnings. -/
def select (i : ErrorLog.Ignored) (errors warnings : List String) : Findings :=
  ⟨errors.filter (i.classify · = some .error), warnings.filter (i.classify · = some .warning)⟩

theorem mem_errors_select {i : ErrorLog.Ignored} {a b : List String} {l : String} :
    l ∈ (select i a b).errors ↔ l ∈ a ∧ i.classify l = some .error := by
  simp [select]

theorem mem_warnings_select {i : ErrorLog.Ignored} {a b : List String} {l : String} :
    l ∈ (select i a b).warnings ↔ l ∈ b ∧ i.classify l = some .warning := by
  simp [select]

/-- What is reported of a line is what it is classified as. -/
theorem exists_classify_of_mem {i : ErrorLog.Ignored} {a b : List String} {l : String}
    (h : l ∈ (select i a b).errors ∨ l ∈ (select i a b).warnings) : ∃ v, i.classify l = some v := by
  obtain h | h := h
  · exact ⟨.error, (mem_errors_select.mp h).2⟩
  · exact ⟨.warning, (mem_warnings_select.mp h).2⟩

theorem without_select (i : ErrorLog.Ignored) (a b : List String) (g : Findings) :
    (select i a b).without g =
      select i (a.filter (!g.errors.contains ·)) (b.filter (!g.warnings.contains ·)) := by
  simp only [select, without, List.filter_filter, Bool.and_comm]

end Findings

namespace ErrorLog

/-- What can be asked of a log: what is new in it, or what was missed. -/
inductive Query where
  | recent (advance : Bool)
  | missed

/-- What a log reports. -/
def report (g : ErrorLog) (t : FileTree) : Query → Except FileError Findings
  | .recent advance => (g.recent t advance).map Prod.fst
  | .missed => g.missed t

variable {g : ErrorLog} {t : FileTree} {q : Query} {f : Findings} {i j : Ignored}

/-- Which lines are looked at does not depend on what is ignored. -/
theorem exists_report_eq (g : ErrorLog) (t : FileTree) (q : Query) :
    ∃ looked : Except FileError (List String × List String), ∀ i,
      ({ g with ignored := i }).report t q = looked.map fun p => Findings.select i p.1 p.2 := by
  cases q with
  | recent advance =>
    refine ⟨(g.linesFrom t g.position).map fun p => (p.1, p.1), fun i => ?_⟩
    unfold report recent
    change Except.map _ (g.linesFrom t g.position >>= _) = _
    cases g.linesFrom t g.position <;> rfl
  | missed =>
    refine ⟨(g.linesFrom t g.start).map fun p =>
      (p.1.filter (!g.observed.errors.contains ·), p.1.filter (!g.observed.warnings.contains ·)),
      fun i => ?_⟩
    unfold report missed
    change g.linesFrom t g.start >>= _ = _
    cases g.linesFrom t g.start with
    | error e => rfl
    | ok p => exact congrArg Except.ok (Findings.without_select i p.1 p.1 g.observed)

theorem exists_report_eq_ok (h : g.report t q = .ok f) : ∃ errors warnings,
    f = Findings.select g.ignored errors warnings ∧
      ∀ i, ({ g with ignored := i }).report t q = .ok (Findings.select i errors warnings) := by
  obtain ⟨looked, hlooked⟩ := exists_report_eq g t q
  have hg := hlooked g.ignored
  cases looked with
  | error e =>
    rw [h] at hg
    cases hg
  | ok p =>
    exact ⟨p.1, p.2, Except.ok.inj (h.symm.trans hg), hlooked⟩

/-- A number hides the lines that carry it last and no others: a line that is reported carries an
ignored number only before another one that is not ignored, and a line that is reported where no
numbers are ignored is still reported unless its last number is ignored. -/
theorem report_hides_last_number (h : g.report t q = .ok f) :
    (∀ l, l ∈ f.errors ∨ l ∈ f.warnings →
      (∀ before n, LastNumber l.toList before n.toList → n ∉ g.ignored.numbers) ∧
      ∀ before n, Carries l.toList before n.toList → n ∈ g.ignored.numbers →
        ∃ before' n', LastNumber l.toList before' n'.toList ∧ before.length < before'.length ∧
          n' ∉ g.ignored.numbers) ∧
    ∃ f', ({ g with ignored := { g.ignored with numbers := [] } }).report t q = .ok f' ∧
      ∀ l, (l ∈ f.errors ↔ l ∈ f'.errors ∧
          ∀ before n, LastNumber l.toList before n.toList → n ∉ g.ignored.numbers) ∧
        (l ∈ f.warnings ↔ l ∈ f'.warnings ∧
          ∀ before n, LastNumber l.toList before n.toList → n ∉ g.ignored.numbers) := by
  obtain ⟨errors, warnings, rfl, hreport⟩ := exists_report_eq_ok h
  constructor
  · intro l hl
    obtain ⟨v, hv⟩ := Findings.exists_classify_of_mem hl
    have hlast := (Ignored.classify_eq_some_iff_numbers.mp hv).2
    refine ⟨hlast, fun before n hn hmem => ?_⟩
    obtain ⟨before', m, hm⟩ := hn.exists_lastNumber
    rw [← String.toList_ofList (l := m)] at hm
    have hlater : before.length ≠ before'.length := fun hlength => by
      have hsame := hn.number.unique hm.number hlength
      exact hlast _ _ hm (String.toList_inj.mp hsame ▸ hmem)
    exact ⟨before', String.ofList m, hm, Nat.lt_of_le_of_ne (hm.rightmost _ _ hn) hlater,
      hlast _ _ hm⟩
  · refine ⟨_, hreport _, fun l => ?_⟩
    have hiff := fun v => Ignored.classify_eq_some_iff_numbers (i := g.ignored) (l := l) (v := v)
    constructor
    · rw [Findings.mem_errors_select, Findings.mem_errors_select, hiff .error, and_assoc]
    · rw [Findings.mem_warnings_select, Findings.mem_warnings_select, hiff .warning, and_assoc]

/-- A log with a line that carries two numbers, in one order and in the other, and a line with two
tags. -/
def numberedFiles : FileTree :=
  ⟨[], [(["error_log"], .file (Utf8.encode
    "[a:error] AH1: AH2: x\n[b:warn] AH2: y AH1: z\n[c:error] [d:warn] q\n") false)]⟩

def numberedLog (i : Ignored) : ErrorLog :=
  { path := "error_log", ignored := i, start := 0, position := 0 }

theorem report_hides_last_number_twice :
    ∃ f f',
      (numberedLog { numbers := ["AH1"] }).report numberedFiles .missed = .ok f ∧
      (numberedLog {}).report numberedFiles .missed = .ok f' ∧
      (∀ l, (l ∈ f.errors ↔ l ∈ f'.errors ∧
          ∀ before n, LastNumber l.toList before n.toList → n ∉ ["AH1"]) ∧
        (l ∈ f.warnings ↔ l ∈ f'.warnings ∧
          ∀ before n, LastNumber l.toList before n.toList → n ∉ ["AH1"])) ∧
      f = ⟨["[a:error] AH1: AH2: x", "[c:error] [d:warn] q"], []⟩ ∧
      f'.warnings = ["[b:warn] AH2: y AH1: z"] := by
  -- both at once: the kernel reads the table of digits once
  obtain ⟨h, h'⟩ : (numberedLog { numbers := ["AH1"] }).report numberedFiles .missed =
      .ok ⟨["[a:error] AH1: AH2: x", "[c:error] [d:warn] q"], []⟩ ∧
    (numberedLog {}).report numberedFiles .missed =
      .ok ⟨["[a:error] AH1: AH2: x", "[c:error] [d:warn] q"], ["[b:warn] AH2: y AH1: z"]⟩ := by
    decide +kernel
  obtain ⟨-, f', hf', hiff⟩ := report_hides_last_number h
  have he := Except.ok.inj (hf'.symm.trans h')
  exact ⟨_, f', h, hf', hiff, rfl, by rw [he]⟩

/-- A line that carries an ignored number before another one is reported all the same. -/
theorem report_carries_ignored_number :
    ∃ f f', (numberedLog { numbers := ["AH1"] }).report numberedFiles (.recent true) = .ok f ∧
      (numberedLog { numbers := ["AH1"] }).report numberedFiles .missed = .ok f' ∧
      Carries "[a:error] AH1: AH2: x".toList "[a:error]".toList "AH1".toList ∧
      "[a:error] AH1: AH2: x" ∈ f.errors ∧ "[a:error] AH1: AH2: x" ∈ f'.errors := by
  obtain ⟨h, h', hdigit⟩ : (numberedLog { numbers := ["AH1"] }).report numberedFiles (.recent true) =
      .ok ⟨["[a:error] AH1: AH2: x", "[c:error] [d:warn] q"], []⟩ ∧
    (numberedLog { numbers := ["AH1"] }).report numberedFiles .missed =
      .ok ⟨["[a:error] AH1: AH2: x", "[c:error] [d:warn] q"], []⟩ ∧
    Text.isAnyDigit '1' = true := by
    decide +kernel
  have hcarries : Carries "[a:error] AH1: AH2: x".toList "[a:error]".toList "AH1".toList := by
    constructor
    case number =>
      refine ⟨⟨'1', [], rfl, ?_⟩, "AH2: x".toList, by decide, by decide⟩
      exact List.forall_mem_singleton.mpr hdigit
    case tagged =>
      refine ⟨[], ⟨"a", .error⟩, [], by decide, by decide, ?_⟩
      exact List.forall_mem_singleton.mpr (by decide)
  exact ⟨_, _, h, h', hcarries, List.mem_cons_self, List.mem_cons_self⟩

/-- To ignore more is to report less: what is still reported stands in the same order, and what is
not is hidden by something that was added. Whatever is ignored, no line is reported as both an error
and a warning, and a line that is reported is what its first tag says. -/
theorem report_of_more_ignored (g : ErrorLog) (t : FileTree) (q : Query) :
    (∀ i j f, i.Within j → ({ g with ignored := i }).report t q = .ok f →
      ∃ f', ({ g with ignored := j }).report t q = .ok f' ∧
        f'.errors.Sublist f.errors ∧ f'.warnings.Sublist f.warnings ∧
        ∃ kept : String → Bool,
          f'.errors = f.errors.filter kept ∧ f'.warnings = f.warnings.filter kept ∧
          ∀ l, l ∈ f.errors ∨ l ∈ f.warnings → kept l = false → i.AddedHides j l) ∧
    ∀ f, g.report t q = .ok f → ∀ l,
      ¬ (l ∈ f.errors ∧ l ∈ f.warnings) ∧
      (l ∈ f.errors ∨ l ∈ f.warnings →
        (∃ before tag after, FirstTag l.toList before tag after) ∧
        ∀ before tag after, FirstTag l.toList before tag after →
          (l ∈ f.errors ↔ tag.severity = .error)) := by
  constructor
  · intro i j f hwithin h
    obtain ⟨errors, warnings, rfl, hreport⟩ := exists_report_eq_ok h
    refine ⟨_, hreport j, hwithin.filter_sublist .error errors,
      hwithin.filter_sublist .warning warnings, fun l => j.classify l = i.classify l,
      hwithin.filter_eq .error errors, hwithin.filter_eq .warning warnings, fun l hl hkept => ?_⟩
    obtain ⟨v, hv⟩ := Findings.exists_classify_of_mem hl
    exact Ignored.addedHides_of_classify_ne hv (hv ▸ of_decide_eq_false hkept)
  · intro f h l
    obtain ⟨errors, warnings, rfl, -⟩ := exists_report_eq_ok h
    constructor
    · rintro ⟨herror, hwarning⟩
      have he := (Findings.mem_errors_select.mp herror).2
      have hw := (Findings.mem_warnings_select.mp hwarning).2
      cases he.symm.trans hw
    · intro hl
      obtain ⟨v, hv⟩ := Findings.exists_classify_of_mem hl
      obtain ⟨-, before, tag, after, hfirst, -, htag⟩ := Ignored.classify_eq_some_iff.mp hv
      refine ⟨⟨before, tag, after, hfirst⟩, fun before' tag' after' hfirst' => ?_⟩
      have hsame : tag' = tag := by
        have h' := tag?_eq_some_iff.mpr ⟨before', hfirst'⟩
        rw [tag?_eq_some_iff.mpr ⟨before, hfirst⟩] at h'
        cases h'
        rfl
      rw [hsame, htag]
      constructor
      · intro herror
        exact Option.some.inj (hv.symm.trans (Findings.mem_errors_select.mp herror).2)
      · rintro rfl
        refine hl.resolve_right fun hwarning => ?_
        cases hv.symm.trans (Findings.mem_warnings_select.mp hwarning).2

/-- All three ways to ignore. -/
def moreIgnored : Ignored where
  modules := ["b"]
  numbers := ["AH2"]
  patterns := [.one (.only 'q')]

theorem report_of_more_ignored_sample : Ignored.Within {} moreIgnored ∧
    ∃ f', (numberedLog moreIgnored).report numberedFiles (.recent false) = .ok f' ∧
      f'.errors.Sublist ["[a:error] AH1: AH2: x", "[c:error] [d:warn] q"] ∧
      f'.warnings.Sublist ["[b:warn] AH2: y AH1: z"] ∧ f' = {} := by
  have hwithin : Ignored.Within {} moreIgnored :=
    ⟨List.nil_subset _, List.nil_subset _, List.nil_subset _⟩
  obtain ⟨h, h'⟩ : (numberedLog {}).report numberedFiles (.recent false) =
      .ok ⟨["[a:error] AH1: AH2: x", "[c:error] [d:warn] q"], ["[b:warn] AH2: y AH1: z"]⟩ ∧
    (numberedLog moreIgnored).report numberedFiles (.recent false) = .ok {} := by
    decide +kernel
  obtain ⟨f', hf', herrors, hwarnings, -⟩ :=
    (report_of_more_ignored (numberedLog {}) numberedFiles (.recent false)).1 _ _ _ hwithin h
  exact ⟨hwithin, f', hf', herrors, hwarnings, Except.ok.inj (hf'.symm.trans h')⟩

end ErrorLog

end WebTestbed
