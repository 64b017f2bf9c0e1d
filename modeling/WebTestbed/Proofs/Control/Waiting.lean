import WebTestbed.Proofs.Control.Forget
import Mathlib.Algebra.Order.Floor.Div

/-! Waiting for a server to answer, or to be seen not to be reachable: which attempts are made, what
time they are given, and when the waiting ends. -/
namespace WebTestbed

open Control

variable {σ : Type}

/-- What is waited for. -/
inductive Wanted where
  | live
  | dead
  deriving DecidableEq, Repr

/-- An attempt to find the server as it is wanted: when it began, the time that it was given, and
whether it did. -/
structure Trial where
  url : String
  wanted : Wanted
  start : Duration
  given : Duration
  reached : Bool
  deriving DecidableEq, Repr

namespace Probe

/-- An attempt takes no longer than the time that it is given, and faults only if clocks do not
count on for that time. -/
def InTime (attempt : Duration → Action σ Bool) : Prop :=
  ∀ d s, Ends (attempt d) s
    (fun _ t => s.clock.nanos ≤ t.clock.nanos ∧ t.clock.nanos ≤ s.clock.nanos + d.nanos)
    (fun _ _ => Action.clockLimit ≤ s.clock.nanos + d.nanos)

/-- The question to the server. -/
def asks (probe : Probe σ) : Wanted → String → Duration → Action σ Bool
  | .live => probe.answers
  | .dead => probe.refuses

/-- Asks the question, and adds the attempt to the record. -/
def note (probe : Probe σ) (wanted : Wanted) (url : String) (d : Duration) :
    Action (σ × List Trial) Bool := do
  let start ← Action.now
  let reached ← (probe.asks wanted url d).beside
  modify fun s => s.withOutside (s.outside.1, s.outside.2 ++ [⟨url, wanted, start, d, reached⟩])
  return reached

def noted (probe : Probe σ) : Probe (σ × List Trial) :=
  ⟨probe.note .live, probe.note .dead⟩

theorem agrees_note (probe : Probe σ) (wanted : Wanted) (url : String) (d : Duration) :
    Agrees Session.forget (probe.note wanted url d) (probe.asks wanted url d) := by
  have h : Agrees Session.forget (probe.note wanted url d)
      (Action.now >>= fun _ => probe.asks wanted url d >>= pure) := by
    apply agrees_now.bind
    intro _
    apply (agrees_beside _).bind
    intro _ _
    rfl
  rw [bind_pure] at h
  exact h

/-- The attempt that is made at a moment before the deadline. -/
def trialAt (wanted : Wanted) (url : String) (interval start deadline : Duration)
    (reached : Bool) : Trial :=
  ⟨url, wanted, start, timeForAttempt interval ⟨deadline.nanos - start.nanos⟩, reached⟩

/-- After an attempt that leaves time, the next is an interval later, or the time is over then. -/
theorem nextStart_wakes (interval : Duration) {start finish deadline : Duration}
    (hfrom : start.nanos ≤ finish.nanos) (hto : finish.nanos < deadline.nanos) :
    let wake := nextStart interval start finish deadline
    wake.nanos ≤ deadline.nanos ∧
      (start.nanos + interval.nanos ≤ wake.nanos ∨ wake.nanos = deadline.nanos) := by
  intro wake
  have hwake : wake.nanos = max
      (finish.nanos + min interval.nanos (deadline.nanos - finish.nanos)) (start.nanos + 1) := rfl
  omega

/-- How attempts at intervals go from a moment on. -/
structure Course (interval start deadline : Duration) (trials : List Trial) (reached : Bool)
    (finish : Duration) : Prop where
  finish_le : finish.nanos ≤ deadline.nanos
  length_le : trials.length ≤ (deadline.nanos - start.nanos) ⌈/⌉ interval.nanos
  /-- Each has some time: at most the interval, or a second if that is longer, and no more than what
  is left. -/
  given : ∀ a ∈ trials, 0 < a.given.nanos ∧ a.given.nanos ≤
    min (max interval.nanos attemptTime.nanos) (deadline.nanos - a.start.nanos)
  reached_iff : reached = true ↔ ∃ a, trials.getLast? = some a ∧ a.reached = true
  /-- There is no attempt after one that succeeds. -/
  stops : ∀ a ∈ trials.dropLast, a.reached = false
  exhausted : reached = false → finish = deadline ∧ ∀ a ∈ trials, a.reached = false

namespace Course

variable {wanted : Wanted} {url : String} {interval start wake deadline finish : Duration}
  {trials : List Trial} {reached : Bool}

/-- At the deadline there are no attempts. -/
theorem ended : Course interval deadline deadline [] false deadline := by
  constructor
  case finish_le => exact Nat.le_refl _
  case length_le => exact Nat.zero_le _
  case given => exact List.forall_mem_nil _
  case reached_iff => simp
  case stops => exact List.forall_mem_nil _
  case exhausted => exact fun _ => ⟨rfl, List.forall_mem_nil _⟩

theorem one_le_ceilDiv {i n : Nat} (hi : 0 < i) (hn : 0 < n) : 1 ≤ n ⌈/⌉ i := by
  rw [Nat.ceilDiv_eq_add_pred_div]
  exact Nat.div_pos (by omega) hi

/-- Where an interval passes, or what is left of the time, there is one attempt less to make. -/
theorem succ_ceilDiv_le {i n k : Nat} (hi : 0 < i) (hn : 0 < n) (h : k + i ≤ n ∨ k = 0) :
    k ⌈/⌉ i + 1 ≤ n ⌈/⌉ i := by
  obtain h | rfl := h
  · rw [Nat.ceilDiv_eq_add_pred_div, Nat.ceilDiv_eq_add_pred_div, ← Nat.add_div_right _ hi]
    exact Nat.div_le_div_right (by omega)
  · rw [zero_ceilDiv]
    exact one_le_ceilDiv hi hn

theorem given_trialAt (hstart : start.nanos < deadline.nanos) :
    let a := trialAt wanted url interval start deadline reached
    0 < a.given.nanos ∧ a.given.nanos ≤
      min (max interval.nanos attemptTime.nanos) (deadline.nanos - a.start.nanos) := by
  intro a
  have htime : 0 < attemptTime.nanos := by decide
  have hgiven : a.given.nanos =
      min (max interval.nanos attemptTime.nanos) (deadline.nanos - start.nanos) := rfl
  have hmoment : a.start = start := rfl
  rw [hmoment]
  omega

variable (hi : 0 < interval.nanos) (hstart : start.nanos < deadline.nanos)
include hi hstart

/-- The attempt that succeeds is the last, and so is one that takes all the time. -/
theorem last (hfinish : finish.nanos ≤ deadline.nanos) (h : reached = true ∨ finish = deadline) :
    Course interval start deadline [trialAt wanted url interval start deadline reached] reached
      finish := by
  constructor
  case finish_le => exact hfinish
  case length_le => exact one_le_ceilDiv hi (Nat.sub_pos_of_lt hstart)
  case given => simpa using given_trialAt hstart
  case reached_iff => simp [trialAt]
  case stops => exact List.forall_mem_nil _
  case exhausted =>
    intro hreached
    obtain h | h := h
    · rw [hreached] at h
      cases h
    · exact ⟨h, by simpa [trialAt] using hreached⟩

/-- After an attempt that fails, and a sleep of the interval or until the deadline, it goes on as
from then. -/
theorem next (hwake : start.nanos + interval.nanos ≤ wake.nanos ∨ wake.nanos = deadline.nanos)
    (h : Course interval wake deadline trials reached finish) :
    Course interval start deadline (trialAt wanted url interval start deadline false :: trials)
      reached finish := by
  constructor
  case finish_le => exact h.finish_le
  case length_le =>
    have hleft : deadline.nanos - wake.nanos + interval.nanos ≤ deadline.nanos - start.nanos ∨
        deadline.nanos - wake.nanos = 0 := by omega
    have hless := succ_ceilDiv_le hi (Nat.sub_pos_of_lt hstart) hleft
    exact Nat.le_trans (Nat.succ_le_succ h.length_le) hless
  case given => exact List.forall_mem_cons.mpr ⟨given_trialAt hstart, h.given⟩
  case reached_iff =>
    rw [h.reached_iff]
    cases trials with
    | nil => simp [trialAt]
    | cons b l => rw [List.getLast?_cons_cons]
  case stops =>
    cases trials with
    | nil => exact List.forall_mem_nil _
    | cons b l => exact List.forall_mem_cons.mpr ⟨rfl, h.stops⟩
  case exhausted =>
    intro hreached
    obtain ⟨hfinish, hall⟩ := h.exhausted hreached
    exact ⟨hfinish, List.forall_mem_cons.mpr ⟨rfl, hall⟩⟩

omit hi hstart in
/-- Without any time there are no attempts, and the server is not found. -/
theorem eq_nil (h : Course interval start deadline trials reached finish)
    (hover : deadline.nanos ≤ start.nanos) : trials = [] ∧ reached = false := by
  have hlength := h.length_le
  rw [Nat.sub_eq_zero_of_le hover, zero_ceilDiv, Nat.le_zero, List.length_eq_zero_iff] at hlength
  refine ⟨hlength, ?_⟩
  rw [← Bool.not_eq_true, h.reached_iff, hlength]
  rintro ⟨a, ha, -⟩
  cases ha

end Course

section Note

variable {probe : Probe σ} {wanted : Wanted} {url : String}
  (hprobe : InTime (probe.asks wanted url))
include hprobe

/-- The attempt is made in its time, and is in the record. -/
theorem run_note {d : Duration} {s : Session (σ × List Trial)}
    (hlimit : s.clock.nanos + d.nanos < Action.clockLimit) :
    ∃ reached t, (probe.note wanted url d).run.run s = (.ok reached, t) ∧
      s.clock.nanos ≤ t.clock.nanos ∧ t.clock.nanos ≤ s.clock.nanos + d.nanos ∧
      t.outside.2 = s.outside.2 ++ [⟨url, wanted, s.clock, d, reached⟩] := by
  apply Ends.exists_run
  unfold note Action.now
  rw [ends_bind, ends_bind, ends_get, ends_pure, ends_bind, Action.ends_beside_iff]
  apply (hprobe d s.forget).mono
  · rintro reached t ⟨hfrom, hto⟩
    rw [ends_bind, ends_modify, ends_pure]
    exact ⟨hfrom, hto, rfl⟩
  · intro _ _ h
    exact Nat.not_le_of_lt hlimit h

/-- An attempt before the deadline ends before it, and is in the record. -/
theorem run_note_before (interval : Duration) {deadline : Duration}
    (hlimit : deadline.nanos < Action.clockLimit) {s : Session (σ × List Trial)}
    (hs : s.clock.nanos < deadline.nanos) :
    ∃ reached t, (probe.note wanted url
        (timeForAttempt interval ⟨deadline.nanos - s.clock.nanos⟩)).run.run s = (.ok reached, t) ∧
      s.clock.nanos ≤ t.clock.nanos ∧ t.clock.nanos ≤ deadline.nanos ∧
      t.outside.2 = s.outside.2 ++ [trialAt wanted url interval s.clock deadline reached] := by
  have hd := timeForAttempt_le interval ⟨deadline.nanos - s.clock.nanos⟩
  simp only at hd
  obtain ⟨reached, t, hr, hfrom, hto, hout⟩ := run_note hprobe
    (d := timeForAttempt interval ⟨deadline.nanos - s.clock.nanos⟩) (s := s) (by omega)
  exact ⟨reached, t, hr, hfrom, by omega, hout⟩

/-- The attempts of a poll up to the deadline are in the record, and take their course. -/
theorem course_pollUntil {interval deadline : Duration} (hi : 0 < interval.nanos)
    (hlimit : deadline.nanos < Action.clockLimit) (s : Session (σ × List Trial))
    (hs : s.clock.nanos ≤ deadline.nanos) :
    ∃ reached t trials, pollUntil interval deadline (probe.note wanted url) s = (.ok reached, t) ∧
      t.outside.2 = s.outside.2 ++ trials ∧ (∀ a ∈ trials, a.url = url ∧ a.wanted = wanted) ∧
      Course interval s.clock deadline trials reached t.clock := by
  have hnote := fun s => run_note_before hprobe interval hlimit (s := s)
  fun_induction pollUntil interval deadline (probe.note wanted url) s with
  | case1 s hlt left t hr ht ih =>
    obtain ⟨_, _, hr', hfrom, -, hout⟩ := hnote s hlt
    cases hr.symm.trans hr'
    obtain ⟨hover, hslept⟩ := nextStart_wakes interval hfrom ht
    obtain ⟨reached, u, trials, hrun, hrecord, hasked, hcourse⟩ := ih hover
    refine ⟨reached, u, trialAt wanted url interval s.clock deadline false :: trials, hrun, ?_, ?_,
      hcourse.next hi hlt hslept⟩
    · rw [hrecord, hout, List.append_assoc]
      rfl
    · exact List.forall_mem_cons.mpr ⟨⟨rfl, rfl⟩, hasked⟩
  | case2 s hlt left t hr ht =>
    obtain ⟨_, _, hr', -, hto, hout⟩ := hnote s hlt
    cases hr.symm.trans hr'
    have hfinish : t.clock = deadline :=
      congrArg Duration.mk (Nat.le_antisymm hto (Nat.le_of_not_lt ht))
    exact ⟨false, t, [_], rfl, hout, by simp [trialAt], .last hi hlt hto (.inr hfinish)⟩
  | case3 s hlt left hr =>
    obtain ⟨reached, t, hr', -, hto, hout⟩ := hnote s hlt
    have hreached : reached = true := by
      cases reached with
      | true => rfl
      | false => exact absurd hr' (hr t)
    exact ⟨reached, t, [_], hr', hout, by simp [trialAt], .last hi hlt hto (.inl hreached)⟩
  | case4 s hlt =>
    have hfinish : s.clock = deadline :=
      congrArg Duration.mk (Nat.le_antisymm hs (Nat.le_of_not_lt hlt))
    refine ⟨false, s, [], rfl, (List.append_nil _).symm, List.forall_mem_nil _, ?_⟩
    rw [hfinish]
    exact .ended

/-- Where clocks count on to the deadline, the attempts of a poll take their course until then. -/
theorem course_poll {interval timeout : Duration} (hi : 0 < interval.nanos)
    {s : Session (σ × List Trial)}
    (hlimit : s.clock.nanos + timeout.nanos < Action.clockLimit) :
    ∃ reached t trials,
      (poll interval timeout (probe.note wanted url)).run.run s = (.ok reached, t) ∧
      t.outside.2 = s.outside.2 ++ trials ∧ (∀ a ∈ trials, a.url = url ∧ a.wanted = wanted) ∧
      Course interval s.clock ⟨s.clock.nanos + timeout.nanos⟩ trials reached t.clock := by
  obtain ⟨reached, t, trials, hr, h⟩ := course_pollUntil hprobe hi hlimit s (Nat.le_add_right _ _)
  exact ⟨reached, t, trials, by rw [run_poll, if_pos hlimit, hr], h⟩

end Note

end Probe

namespace Control.Managed

/-- With a record of attempts, which is still empty. -/
def withNoTrials (m : Managed σ) : Managed (σ × List Trial) :=
  ⟨m.control, m.session.withOutside (m.session.outside, [])⟩

def trials (m : Managed (σ × List Trial)) : List Trial :=
  m.session.outside.2

end Control.Managed

namespace Controller

/-- Whether the server is found as it is wanted within the time. -/
def waits (c : Controller σ) : Wanted → String → Duration → Step σ Bool
  | .live => c.isLive
  | .dead => c.isDead

/-- The controller that keeps a record of the attempts to reach a server. -/
def noted (c : Controller σ) : Controller (σ × List Trial) :=
  ⟨c.env, fun i => (c.run i).beside, c.probe.noted⟩

theorem matches_noted (c : Controller σ) : c.noted.Matches c := by
  constructor
  case env => rfl
  case run => exact fun _ => agrees_beside _
  case answers => exact c.probe.agrees_note .live
  case refuses => exact c.probe.agrees_note .dead

theorem agrees_waits (c : Controller σ) (wanted : Wanted) (url : String) (timeout : Duration) :
    Agrees Managed.forget (c.noted.waits wanted url timeout) (c.waits wanted url timeout) := by
  cases wanted with
  | live => exact agrees_isLive c.matches_noted url timeout
  | dead => exact agrees_isDead c.matches_noted url timeout

theorem asks_noted (c : Controller σ) (wanted : Wanted) (url : String) :
    c.noted.probe.asks wanted url = c.probe.note wanted url := by
  cases wanted <;> rfl

section Waits

variable {c : Controller σ} {wanted : Wanted} {url : String} {timeout : Duration} {m : Managed σ}
  {s : Session σ}

/-- Waiting is a poll, which is told of if it fails. -/
theorem waits_eq (c : Controller σ) (wanted : Wanted) (url : String) (timeout : Duration) :
    ∃ text, c.waits wanted url timeout = do
      let found ← lift (Probe.poll (← current).interval timeout (c.probe.asks wanted url))
      if !found then
        tell .debug text
      return found := by
  cases wanted with
  | live => exact ⟨"unable to contact server after " ++ timeout.text, rfl⟩
  | dead => exact ⟨"server still responding after " ++ timeout.text, rfl⟩

theorem exists_run_waits {found : Bool}
    (h : (Probe.poll m.control.interval timeout (c.probe.asks wanted url)).run.run m.session =
      (.ok found, s)) :
    ∃ t, (c.waits wanted url timeout).run.run m = (.ok found, t) ∧
      t.session.outside = s.outside ∧ t.session.clock = s.clock := by
  obtain ⟨text, hwaits⟩ := c.waits_eq wanted url timeout
  have hends : Ends (c.waits wanted url timeout) m
      (fun x t => x = found ∧ t.session.outside = s.outside ∧ t.session.clock = s.clock)
      (fun _ _ => False) := by
    rw [hwaits, ends_bind, ends_current, ends_bind, ends_lift]
    unfold Ends
    rw [h]
    cases found with
    | true => exact ⟨rfl, rfl, rfl⟩
    | false => exact ⟨rfl, rfl, rfl⟩
  obtain ⟨_, t, ht, rfl, hrest⟩ := hends.exists_run
  exact ⟨t, ht, hrest⟩

theorem run_waits_of_fault {e : Fault}
    (h : (Probe.poll m.control.interval timeout (c.probe.asks wanted url)).run.run m.session =
      (.error e, m.session)) :
    (c.waits wanted url timeout).run.run m = (.error e, m) := by
  obtain ⟨text, hwaits⟩ := c.waits_eq wanted url timeout
  have hlift : (lift (Probe.poll m.control.interval timeout (c.probe.asks wanted url))).run.run m =
      Prod.map id (fun s => ⟨m.control, s⟩) ((Probe.poll m.control.interval timeout
        (c.probe.asks wanted url)).run.run m.session) := rfl
  have hcurrent : current.run.run m = (.ok m.control, m) := rfl
  rw [hwaits, ExceptT.run_bind, StateT.run_bind, hcurrent]
  change ((lift (Probe.poll m.control.interval timeout (c.probe.asks wanted url))) >>=
    _).run.run m = _
  rw [ExceptT.run_bind, StateT.run_bind, hlift, h]
  rfl

end Waits

/-- Waiting for a server to answer, or to be seen not to be reachable, where attempts take no longer
than they may: it ends by the deadline, with the truth, if clocks count on to the deadline. If not,
it faults at once. -/
theorem waits_until_deadline (c : Controller σ) (wanted : Wanted) (url : String)
    (timeout : Duration) (m : Managed σ) (hi : 0 < m.control.interval.nanos)
    (hprobe : Probe.InTime (c.probe.asks wanted url)) :
    let deadline : Duration := ⟨m.session.clock.nanos + timeout.nanos⟩
    (deadline.nanos < Action.clockLimit → ∃ reached t,
      (c.noted.waits wanted url timeout).run.run m.withNoTrials = (.ok reached, t) ∧
      (c.waits wanted url timeout).run.run m = (.ok reached, t.forget) ∧
      (∀ a ∈ t.trials, a.url = url ∧ a.wanted = wanted) ∧
      Probe.Course m.control.interval m.session.clock deadline t.trials reached t.session.clock ∧
      (timeout.nanos = 0 → t.trials = [] ∧ reached = false)) ∧
    (Action.clockLimit ≤ deadline.nanos →
      (c.noted.waits wanted url timeout).run.run m.withNoTrials =
        (.error .clockOverflow, m.withNoTrials) ∧
      (c.waits wanted url timeout).run.run m = (.error .clockOverflow, m)) := by
  intro deadline
  refine ⟨fun hlimit => ?_, fun hlimit => ?_⟩
  · obtain ⟨reached, s, trials, hpoll, hrecord, hasked, hcourse⟩ :=
      Probe.course_poll hprobe hi (s := m.withNoTrials.session) hlimit
    rw [← asks_noted] at hpoll
    obtain ⟨t, ht, houtside, hclock⟩ := exists_run_waits hpoll
    have htrials : t.trials = trials := by
      unfold Managed.trials
      rw [houtside, hrecord]
      rfl
    rw [← htrials] at hasked hcourse
    rw [← hclock] at hcourse
    refine ⟨reached, t, ht, ?_, hasked, hcourse, fun hzero => ?_⟩
    · have hforget := agrees_waits c wanted url timeout m.withNoTrials
      rw [ht] at hforget
      exact hforget
    · exact hcourse.eq_nil (Nat.le_of_eq (by rw [hzero]; rfl))
  · have hover : ¬ m.session.clock.nanos + timeout.nanos < Action.clockLimit :=
      Nat.not_lt_of_le hlimit
    constructor
    · exact run_waits_of_fault (by rw [Probe.run_poll]; exact if_neg hover)
    · exact run_waits_of_fault (by rw [Probe.run_poll]; exact if_neg hover)

/-- The server answers after some attempts, of which each takes a while, if it may. -/
def answersAfter (delay : Duration) (_ : String) (d : Duration) : Action Nat Bool := do
  let left := (← get).outside
  Action.pass (d.min delay)
  modify fun s => { s with outside := left - 1 }
  return left = 0

/-- Commands succeed, and the questions are answered as given. -/
def answered (answers : String → Duration → Action σ Bool) : Controller σ :=
  ⟨.ofSettings {} "w" none none,
    fun i => return { args := i.args, exitCode := 0, output := [], errors := [] },
    .ofAnswers answers⟩

theorem inTime_answersAfter (delay : Duration) (url : String) :
    Probe.InTime (answersAfter delay url) := by
  intro d s
  unfold answersAfter Action.pass
  rw [ends_bind, ends_get, ends_bind, ends_modify, ends_bind, ends_modify, ends_pure]
  have hle : (d.min delay).nanos ≤ d.nanos := Nat.min_le_left _ _
  exact ⟨Nat.le_add_right _ _, Nat.add_le_add_left hle _⟩

theorem waits_until_deadline_third_attempt :
    let c := answered (answersAfter (.ofMillis 300))
    let m : Managed Nat := ⟨{}, { files := ⟨[], []⟩, outside := 2 }⟩
    let timeout := Duration.ofSeconds 10
    0 < m.control.interval.nanos ∧ Probe.InTime (c.probe.asks .live "u") ∧ ∃ reached t,
      (c.noted.waits .live "u" timeout).run.run m.withNoTrials = (.ok reached, t) ∧
      Probe.Course m.control.interval m.session.clock timeout t.trials reached t.session.clock ∧
      reached = true ∧ t.trials.length = 3 ∧ t.session.clock = .ofMillis 1300 := by
  intro c m timeout
  have hi : 0 < m.control.interval.nanos := by decide
  have hprobe : Probe.InTime (c.probe.asks .live "u") := inTime_answersAfter _ "u"
  obtain ⟨reached, t, hrun, -, -, hcourse, -⟩ :=
    (waits_until_deadline c .live "u" timeout m hi hprobe).1 (by decide +kernel)
  have h : (match (c.noted.waits .live "u" timeout).run.run m.withNoTrials with
      | (.ok reached, t) => reached && t.trials.length = 3 &&
        t.session.clock = Duration.ofMillis 1300
      | (.error _, _) => false) = true := by decide +kernel
  rw [hrun] at h
  simp only [Bool.and_eq_true, decide_eq_true_eq] at h
  have hdeadline : (⟨m.session.clock.nanos + timeout.nanos⟩ : Duration) = timeout :=
    congrArg Duration.mk (Nat.zero_add _)
  rw [hdeadline] at hcourse
  exact ⟨hi, hprobe, reached, t, hrun, hcourse, h.1.1, h.1.2, h.2⟩

/-- A server that answers every question at once is not found in the longest time that there is: the
clock does not count on to the deadline, and the question is not even asked. -/
theorem waits_longest_timeout :
    let c := answered fun _ _ => (return true : Action Unit Bool)
    let m : Managed Unit := ⟨{}, { files := ⟨[], []⟩, outside := () }⟩
    let timeout := Duration.ofSeconds (2 ^ 64 - 1)
    (∀ url d s, (c.probe.answers url d).run.run s = (.ok true, s)) ∧
      ∀ reached t, (c.waits .live "u" timeout).run.run m ≠ (.ok reached, t) := by
  intro c m timeout
  refine ⟨fun _ _ _ => rfl, fun reached t h => ?_⟩
  have hover : ¬ m.session.clock.nanos + timeout.nanos < Action.clockLimit := by decide +kernel
  have hfault : (c.waits .live "u" timeout).run.run m = (.error .clockOverflow, m) :=
    run_waits_of_fault (by rw [Probe.run_poll, if_neg hover])
  rw [hfault] at h
  cases h

end Controller

end WebTestbed
