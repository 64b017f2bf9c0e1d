import WebTestbed.Proofs.ErrorLog.Forward

/-! What a log misses: of the lines that were added since watching began, those whose text stands in
nothing that was read. -/
namespace WebTestbed

namespace Findings

/-- Findings in some lines without those in others are the findings in lines that are no others. -/
theorem without_ofLines (i : ErrorLog.Ignored) (a b : List String) :
    (ofLines i a).without (ofLines i b) = ofLines i (a.filter (!b.contains ·)) := by
  have hfilter : ∀ s : ErrorLog.Severity,
      (a.filter (i.classify · = some s)).filter (!(b.filter (i.classify · = some s)).contains ·) =
        (a.filter (!b.contains ·)).filter (i.classify · = some s) := by
    intro s
    rw [List.filter_filter, List.filter_filter]
    refine List.filter_congr fun l _ => ?_
    by_cases hs : i.classify l = some s <;> simp [hs]
  rw [without, ofLines, ofLines, hfilter, hfilter, ofLines]

end Findings

namespace ErrorLog

variable {t : FileTree} {p : Path} {g g' : ErrorLog} {f : Findings} {i : Ignored} {old : Bytes}

theorem ignoreRecent_eq_ok (h : g.ignoreRecent t = .ok g') :
    g' = { g with
      position := g.position + (g.news t).length
      last := {}
      observed := g.observed.append (Findings.ofLines g.ignored (logLines (g.news t))) } := by
  unfold ignoreRecent at h
  obtain ⟨⟨ls, after⟩, hl, hr⟩ := bind_eq_ok_iff.mp h
  obtain ⟨rfl, rfl⟩ := linesFrom_eq_ok hl
  cases hr
  rfl

theorem missed_eq_ok (h : g.missed t = .ok f) :
    f = (Findings.ofLines g.ignored (logLines ((t.content g.path).drop g.start))).without
      g.observed := by
  unfold missed at h
  obtain ⟨⟨ls, after⟩, hl, hr⟩ := bind_eq_ok_iff.mp h
  obtain ⟨rfl, -⟩ := linesFrom_eq_ok hl
  cases hr
  rfl

/-- What happens to a log, and what is asked of it. -/
inductive Call where
  | append (more : Bytes)
  | recent (advance : Bool)
  | recentCount (advance : Bool)
  | ignoreRecent
  | missed

namespace Call

def added : Call → Bytes
  | append more => more
  | _ => []

/-- Whether a call reads what is new. -/
def reads : Call → Bool
  | recent _ | recentCount _ | ignoreRecent => true
  | append _ | missed => false

/-- Whether what a call reads is new no more afterwards. -/
def advances : Call → Bool
  | recent advance | recentCount advance => advance
  | ignoreRecent => true
  | append _ | missed => false

variable {c : Call}

theorem reads_of_advances (h : c.advances = true) : c.reads = true := by
  cases c <;> simp_all [advances, reads]

theorem added_of_reads (h : c.reads = true) : c.added = [] := by
  cases c <;> simp_all [reads, added]

end Call

/-- What calls leave to be read, and the lines in the ranges that they read. -/
structure Reading where
  /-- What was added before the last call that advanced. -/
  passed : Bytes := []
  /-- What was added since. -/
  pending : Bytes := []
  seen : List String := []

namespace Reading

/-- A call that reads sees the lines of all that is pending. -/
def next (r : Reading) (c : Call) : Reading where
  passed := if c.advances then r.passed ++ r.pending else r.passed
  pending := if c.advances then [] else r.pending ++ c.added
  seen := if c.reads then r.seen ++ logLines r.pending else r.seen

def ofCalls (calls : List Call) : Reading :=
  calls.foldl next {}

variable {r : Reading} {c : Call} {calls : List Call}

theorem passed_append_pending_next (r : Reading) (c : Call) :
    (r.next c).passed ++ (r.next c).pending = r.passed ++ r.pending ++ c.added := by
  unfold next
  cases h : c.advances with
  | true => simp [Call.added_of_reads (Call.reads_of_advances h)]
  | false => simp

theorem passed_append_pending_foldl (r : Reading) (calls : List Call) :
    (calls.foldl next r).passed ++ (calls.foldl next r).pending =
      r.passed ++ r.pending ++ calls.flatMap Call.added := by
  induction calls generalizing r with
  | nil => exact (List.append_nil _).symm
  | cons c calls ih =>
    rw [List.foldl_cons, ih, passed_append_pending_next, List.flatMap_cons, List.append_assoc]

/-- All that was added has been passed or is pending. -/
theorem passed_append_pending (calls : List Call) :
    (ofCalls calls).passed ++ (ofCalls calls).pending = calls.flatMap Call.added :=
  passed_append_pending_foldl {} calls

theorem seen_foldl_of_not_reads (h : ∀ c ∈ calls, c.reads = false) (r : Reading) :
    (calls.foldl next r).seen = r.seen := by
  induction calls generalizing r with
  | nil => rfl
  | cons c calls ih =>
    obtain ⟨hc, hcalls⟩ := List.forall_mem_cons.mp h
    rw [List.foldl_cons, ih hcalls, next, hc]
    rfl

/-- No line is cut, and the lines of what was passed have been seen. -/
structure Sound (r : Reading) : Prop where
  wholePassed : WholeLines r.passed
  wholePending : WholeLines r.pending
  mem_seen : ∀ l ∈ logLines r.passed, l ∈ r.seen

theorem mem_seen_next {l : String} (h : l ∈ r.seen) : l ∈ (r.next c).seen := by
  unfold next
  cases c.reads with
  | true => exact List.mem_append_left _ h
  | false => exact h

/-- A call that reads has then seen the lines of all that was added before it. -/
theorem Sound.mem_seen_of_reads (h : r.Sound) (hc : c.reads = true) :
    ∀ l ∈ logLines (r.passed ++ r.pending), l ∈ (r.next c).seen := by
  intro l hl
  rw [logLines_append h.wholePassed] at hl
  rw [next, if_pos hc, List.mem_append]
  exact (List.mem_append.mp hl).imp (h.mem_seen l) id

theorem Sound.next (h : r.Sound) (hc : WholeLines c.added) : (r.next c).Sound := by
  cases hadvances : c.advances with
  | true =>
    have hseen := h.mem_seen_of_reads (Call.reads_of_advances hadvances)
    have hpassed : (r.next c).passed = r.passed ++ r.pending := by
      simp [Reading.next, hadvances]
    have hpending : (r.next c).pending = [] := by
      simp [Reading.next, hadvances]
    constructor
    case wholePassed => exact hpassed ▸ h.wholePassed.append h.wholePending
    case wholePending => exact .inl hpending
    case mem_seen => exact hpassed ▸ hseen
  | false =>
    have hpassed : (r.next c).passed = r.passed := by
      simp [Reading.next, hadvances]
    have hpending : (r.next c).pending = r.pending ++ c.added := by
      simp [Reading.next, hadvances]
    constructor
    case wholePassed => exact hpassed ▸ h.wholePassed
    case wholePending => exact hpending ▸ h.wholePending.append hc
    case mem_seen => exact hpassed ▸ fun l hl => mem_seen_next (h.mem_seen l hl)

theorem sound_ofCalls (h : ∀ c ∈ calls, WholeLines c.added) : (ofCalls calls).Sound := by
  have hfold : ∀ r : Reading, r.Sound → (calls.foldl Reading.next r).Sound := by
    induction calls with
    | nil => exact fun r hr => hr
    | cons c calls ih =>
      obtain ⟨hc, hcalls⟩ := List.forall_mem_cons.mp h
      exact fun r hr => ih hcalls (r.next c) (hr.next hc)
  refine hfold {} ⟨.inl rfl, .inl rfl, ?_⟩
  intro l hl
  cases hl

/-- After a call that reads, what is not seen among all that was added is what is not seen among
what was added since. -/
theorem filter_seen_append {before later : List Call} (h : ∀ c ∈ before, WholeLines c.added)
    (hc : c.reads = true) (hlater : ∀ c ∈ later, c.reads = false) :
    (logLines ((before ++ c :: later).flatMap Call.added)).filter
        (!(ofCalls (before ++ c :: later)).seen.contains ·) =
      (logLines (later.flatMap Call.added)).filter
        (!(ofCalls (before ++ [c])).seen.contains ·) := by
  have hsound := sound_ofCalls h
  have hbefore : ofCalls (before ++ [c]) = (ofCalls before).next c := by
    rw [ofCalls, List.foldl_append]
    rfl
  have hseen : (ofCalls (before ++ c :: later)).seen = (ofCalls (before ++ [c])).seen := by
    rw [hbefore, ofCalls, List.foldl_append, List.foldl_cons, seen_foldl_of_not_reads hlater]
    rfl
  have hadded : (before ++ c :: later).flatMap Call.added =
      before.flatMap Call.added ++ later.flatMap Call.added := by
    rw [List.flatMap_append, List.flatMap_cons, Call.added_of_reads hc, List.nil_append]
  have hwhole : WholeLines (before.flatMap Call.added) := by
    rw [← passed_append_pending]
    exact hsound.wholePassed.append hsound.wholePending
  have hnone : (logLines (before.flatMap Call.added)).filter
      (!(ofCalls (before ++ [c])).seen.contains ·) = [] := by
    rw [List.filter_eq_nil_iff, ← passed_append_pending, hbefore]
    intro l hl
    simpa using hsound.mem_seen_of_reads hc l hl
  rw [hseen, hadded, logLines_append hwhole, List.filter_append, hnone, List.nil_append]

end Reading

/-- A log and the files that it is one of. -/
structure View where
  log : ErrorLog
  files : FileTree

namespace View

def step (w : View) : Call → Except FileError View
  | .append more => do
    let t ← w.files.append w.log.path more
    return { w with files := t }
  | .recent advance => do
    let (_, g) ← w.log.recent w.files advance
    return { w with log := g }
  | .recentCount advance => do
    let (_, g) ← w.log.recentCount w.files advance
    return { w with log := g }
  | .ignoreRecent => do
    let g ← w.log.ignoreRecent w.files
    return { w with log := g }
  | .missed => do
    let _ ← w.log.missed w.files
    return w

def run (w : View) (calls : List Call) : Except FileError View :=
  calls.foldlM step w

variable {w w' : View} {r : Reading} {c : Call}

/-- All that a call can do: add to the log, read what is new in it, or change nothing. -/
theorem step_cases (h : w.step c = .ok w') :
    (∃ more t, c = .append more ∧ w.files.append w.log.path more = .ok t ∧
      w' = { w with files := t }) ∨
    (c.reads = true ∧ ∃ last, w' = { w with log := { w.log with
      position := if c.advances then w.log.position + (w.log.news w.files).length
        else w.log.position
      last := last
      observed := w.log.observed.append
        (Findings.ofLines w.log.ignored (logLines (w.log.news w.files))) } }) ∨
    (c = .missed ∧ w' = w) := by
  cases c with
  | append more =>
    obtain ⟨t, ht, hw⟩ := bind_eq_ok_iff.mp h
    cases hw
    exact .inl ⟨more, t, rfl, ht, rfl⟩
  | recent advance =>
    obtain ⟨⟨f, g⟩, hr, hw⟩ := bind_eq_ok_iff.mp h
    obtain ⟨hf, hg⟩ := recent_eq_ok hr
    cases hw
    rw [hg, hf]
    exact .inr (.inl ⟨rfl, _, rfl⟩)
  | recentCount advance =>
    obtain ⟨⟨n, g⟩, hc, hw⟩ := bind_eq_ok_iff.mp h
    obtain ⟨hf, hg⟩ := recent_eq_ok (recentCount_eq_ok hc).1
    cases hw
    rw [hg, hf]
    exact .inr (.inl ⟨rfl, _, rfl⟩)
  | ignoreRecent =>
    obtain ⟨g, hg, hw⟩ := bind_eq_ok_iff.mp h
    cases hw
    rw [ignoreRecent_eq_ok hg]
    exact .inr (.inl ⟨rfl, _, rfl⟩)
  | missed =>
    obtain ⟨f, -, hw⟩ := bind_eq_ok_iff.mp h
    cases hw
    exact .inr (.inr ⟨rfl, rfl⟩)

/-- The log was watched from after `old` on, and has been read as `r` says. -/
structure Tracks (i : Ignored) (p : Path) (old : Bytes) (r : Reading) (w : View) : Prop where
  path : w.log.path = p
  ignored : w.log.ignored = i
  start : w.log.start = old.length
  position : w.log.position = old.length + r.passed.length
  content : w.files.content p = old ++ (r.passed ++ r.pending)
  observed : w.log.observed = Findings.ofLines i r.seen

theorem Tracks.news (h : Tracks i p old r w) : w.log.news w.files = r.pending :=
  news_eq h.path h.content h.position

theorem Tracks.step (h : Tracks i p old r w) (hs : w.step c = .ok w') :
    Tracks i p old (r.next c) w' := by
  obtain ⟨more, t, rfl, ht, rfl⟩ | ⟨hreads, last, rfl⟩ | ⟨rfl, rfl⟩ := step_cases hs
  · rw [h.path] at ht
    have hcontent : t.content p = old ++ (r.passed ++ (r.pending ++ more)) := by
      rw [FileTree.content_append ht, h.content]
      simp only [List.append_assoc]
    exact ⟨h.path, h.ignored, h.start, h.position, hcontent, h.observed⟩
  · constructor
    case path => exact h.path
    case ignored => exact h.ignored
    case start => exact h.start
    case position =>
      rw [h.news, h.position, Reading.next]
      cases c.advances with
      | true =>
        change old.length + r.passed.length + r.pending.length =
          old.length + (r.passed ++ r.pending).length
        rw [List.length_append, Nat.add_assoc]
      | false => rfl
    case content =>
      rw [Reading.passed_append_pending_next, Call.added_of_reads hreads, List.append_nil]
      exact h.content
    case observed =>
      rw [h.news, h.observed, h.ignored, ← Findings.ofLines_append, Reading.next, if_pos hreads]
  · have hnext : r.next .missed = r := by
      simp [Reading.next, Call.advances, Call.reads, Call.added]
    rw [hnext]
    exact h

theorem Tracks.run {calls : List Call} (h : Tracks i p old r w) (hr : w.run calls = .ok w') :
    Tracks i p old (calls.foldl Reading.next r) w' := by
  induction calls generalizing w r with
  | nil =>
    have hw : w = w' := Except.ok.inj hr
    exact hw ▸ h
  | cons c calls ih =>
    obtain ⟨m, hs, hrest⟩ := bind_eq_ok_iff.mp hr
    exact ih (h.step hs) hrest

theorem tracks_watch (t : FileTree) (p : Path) (i : Ignored) :
    Tracks i p (t.content p) {} ⟨{ ErrorLog.watch t p with ignored := i }, t⟩ := by
  constructor
  case path => rfl
  case ignored => rfl
  case start => exact sizeOf_eq t p
  case position => exact sizeOf_eq t p
  case content => exact (List.append_nil _).symm
  case observed => rfl

theorem Tracks.missed (h : Tracks i p old r w) (hf : w.log.missed w.files = .ok f) :
    f = Findings.ofLines i ((logLines (r.passed ++ r.pending)).filter (!r.seen.contains ·)) := by
  rw [missed_eq_ok hf, h.path, h.content, h.start, h.ignored, h.observed, List.drop_left,
    Findings.without_ofLines]

/-- What is missed is what nobody looked at: of all lines that were added since watching began,
those whose text was in no range that was read. Right after a call that reads nothing is missed, and
later nothing but lines that were added since. -/
theorem missed_of_run (t : FileTree) (p : Path) (i : Ignored) {calls : List Call}
    (hwhole : ∀ c ∈ calls, WholeLines c.added)
    (hrun : View.run ⟨{ ErrorLog.watch t p with ignored := i }, t⟩ calls = .ok w) :
    w.log.start ≤ w.log.position ∧
      ∀ f, w.log.missed w.files = .ok f →
        f = Findings.ofLines i ((logLines (calls.flatMap Call.added)).filter
          (!(Reading.ofCalls calls).seen.contains ·)) ∧
        ∀ before c later, calls = before ++ c :: later → c.reads = true →
          (∀ c ∈ later, c.reads = false) →
          f = Findings.ofLines i ((logLines (later.flatMap Call.added)).filter
            (!(Reading.ofCalls (before ++ [c])).seen.contains ·)) ∧
          (later = [] → f = {}) := by
  have h : Tracks i p (t.content p) (Reading.ofCalls calls) w := (tracks_watch t p i).run hrun
  refine ⟨by rw [h.start, h.position]; exact Nat.le_add_right _ _, fun f hf => ?_⟩
  have hmissed := h.missed hf
  rw [Reading.passed_append_pending] at hmissed
  refine ⟨hmissed, ?_⟩
  rintro before c later rfl hc hlater
  have hbefore : ∀ c ∈ before, WholeLines c.added := fun c hc =>
    hwhole c (List.mem_append_left _ hc)
  rw [Reading.filter_seen_append hbefore hc hlater] at hmissed
  refine ⟨hmissed, ?_⟩
  rintro rfl
  exact hmissed

/-- A line that is not ended, a look that does not advance, a line that comes again, and one that is
new. -/
def sampleCalls : List Call :=
  [.append (Utf8.encode " 1\n[b:warn] 2\r\n"), .recent false, .missed, .ignoreRecent,
    .append (Utf8.encode "[b:warn] 2\n[c:error] 3\n")]

theorem missed_of_run_sample :
    ∃ w f,
      View.run ⟨{ ErrorLog.watch Watch.sampleFiles "error_log" with ignored := {} },
        Watch.sampleFiles⟩ sampleCalls = .ok w ∧
      w.log.missed w.files = .ok f ∧ w.log.start ≤ w.log.position ∧
      f = Findings.ofLines {} ((logLines (sampleCalls.flatMap Call.added)).filter
        (!(Reading.ofCalls sampleCalls).seen.contains ·)) ∧
      f = ⟨["[c:error] 3"], []⟩ := by
  have h : (match View.run
        ⟨{ ErrorLog.watch Watch.sampleFiles "error_log" with ignored := {} }, Watch.sampleFiles⟩
        sampleCalls with
      | .ok w => match w.log.missed w.files with
        | .ok f => decide (f = ⟨["[c:error] 3"], []⟩)
        | .error _ => false
      | .error _ => false) = true := by
    decide +kernel
  have hwhole : ∀ c ∈ sampleCalls, WholeLines c.added := by
    intro c hc
    simp only [sampleCalls, List.mem_cons, List.not_mem_nil, or_false] at hc
    obtain rfl | rfl | rfl | rfl | rfl := hc
    · exact .inr ⟨Utf8.encode " 1\n[b:warn] 2\r", rfl⟩
    · exact .inl rfl
    · exact .inl rfl
    · exact .inl rfl
    · exact .inr ⟨Utf8.encode "[b:warn] 2\n[c:error] 3", rfl⟩
  split at h
  · next w hrun =>
    split at h
    · next f hf =>
      obtain ⟨hstart, hmissed⟩ := missed_of_run Watch.sampleFiles "error_log" {} hwhole hrun
      exact ⟨w, f, hrun, hf, hstart, (hmissed f hf).1, of_decide_eq_true h⟩
    · cases h
  · cases h

end View

end ErrorLog

end WebTestbed
