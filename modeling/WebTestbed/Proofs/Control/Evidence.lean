import WebTestbed.Proofs.Control.Forget

/-! What it rests on that a server counts as dead. -/
namespace WebTestbed

open Control

variable {σ : Type}

/-- What can find the server dead. -/
inductive DeathCheck where
  | stop
  | gracefulStop
  | expectFailure
  | isDead (url : String) (timeout : Duration)

/-- Where the server is asked for. -/
def DeathCheck.url (e : Environment) : DeathCheck → String
  | .isDead url _ => url
  | _ => e.httpBaseUrl

namespace Controller

/-- The controller that reaches the server by way of curl. -/
def byCurl (e : Environment) (run : Runner σ) : Controller σ :=
  ⟨e, run, Curl.probe e run⟩

/-- Whether the server is found dead: an operation says so by the code 0. -/
def findsDead (c : Controller σ) : DeathCheck → Step σ Bool
  | .stop => return (← c.stop).code = 0
  | .gracefulStop => return (← c.gracefulStop).code = 0
  | .expectFailure => return (← c.expectFailure).code = 0
  | .isDead url timeout => c.isDead url timeout

/-- From `s` on, the record goes on with commands to the server. -/
def Ordered (c : Controller σ) (s t : Session (σ × List Call)) : Prop :=
  ∃ orders, t.outside.2 = s.outside.2 ++ orders ∧
    ∀ call ∈ orders, ∃ cmd, call.invocation.args = c.args cmd

/-- From `s` on, the record goes on with commands to the server, and then with attempts that give
the verdict. -/
def Settled (c : Controller σ) (url : String) (s : Session (σ × List Call)) (dead : Bool)
    (t : Session (σ × List Call)) : Prop :=
  ∃ u, c.Ordered s u ∧ Judged c.env url u dead t

section Ordered

variable {c : Controller σ} {s t u : Session (σ × List Call)}

theorem Ordered.of_eq (h : t.outside.2 = s.outside.2) : c.Ordered s t :=
  ⟨[], by simpa using h, nofun⟩

theorem Ordered.trans (h : c.Ordered s t) (h' : c.Ordered t u) : c.Ordered s u := by
  obtain ⟨before, ht, hb⟩ := h
  obtain ⟨after, hu, ha⟩ := h'
  refine ⟨before ++ after, by rw [hu, ht, List.append_assoc], ?_⟩
  intro call hc
  exact (List.mem_append.mp hc).elim (hb call) (ha call)

end Ordered

variable (e : Environment) (run : Runner σ) (m : Managed (σ × List Call))

theorem ends_tell_ordered (level : Level) (text : String) :
    Ends (tell level text) m (fun _ t => (byCurl e run).Ordered m.session t.session)
      (fun _ _ => True) := by
  unfold Control.tell
  rw [ends_lift, Action.ends_tell]
  exact .of_eq rfl

theorem ends_give_ordered (cmd : ControlCommand) : Ends ((byCurl e run.recorded).give cmd) m
    (fun _ t => (byCurl e run).Ordered m.session t.session) (fun _ _ => True) := by
  unfold give
  rw [ends_bind, ends_current, ends_bind, ends_lift]
  apply Runner.ends_recorded.mono
  · intro r s hs
    rw [ends_bind, ends_update]
    have hr : (byCurl e run).Ordered m.session s := ⟨_, hs, by simpa using ⟨cmd, rfl⟩⟩
    by_cases h : r.succeeded
    · simpa [h] using hr
    · rw [if_pos (by simpa using h), ends_bind]
      apply (ends_tell_ordered e run _ _ _).imp
      intro _ t ht
      exact hr.trans ht
  · intro _ _ _
    trivial

theorem ends_isDead_judged (url : String) (timeout : Duration) :
    Ends ((byCurl e run.recorded).isDead url timeout) m
      (fun dead t => Judged e url m.session dead t.session) (fun _ _ => True) := by
  unfold isDead
  rw [ends_bind, ends_current, ends_bind, ends_lift]
  apply (Curl.ends_poll_refuses e run url m.session _ timeout).imp
  intro dead s hs
  by_cases h : dead
  · simpa [h] using hs
  · rw [if_pos (by simpa using h), ends_bind]
    unfold Control.tell
    rw [ends_lift, Action.ends_tell, ends_pure]
    exact hs

theorem ends_awaitDead_judged : Ends (byCurl e run.recorded).awaitDead m
    (fun o t => Judged e e.httpBaseUrl m.session (o.code = 0) t.session) (fun _ _ => True) := by
  unfold awaitDead
  rw [ends_bind, ends_current]
  apply (ends_isDead_judged e run m _ _).bind
  intro dead t ht
  cases dead with
  | true =>
    rw [if_pos rfl, ends_bind, ends_setState, ends_pure]
    exact ht
  | false =>
    rw [if_neg Bool.false_ne_true, ends_bind, ends_setState, ends_pure]
    exact ht

theorem ends_halt_settled (cmd : ControlCommand) : Ends ((byCurl e run.recorded).halt cmd) m
    (fun o t => (byCurl e run).Settled e.httpBaseUrl m.session (o.code = 0) t.session)
    (fun _ _ => True) := by
  unfold halt
  rw [ends_bind, ends_current, ends_bind, ends_setState]
  apply (ends_give_ordered e run _ cmd).bind
  intro given t ht
  cases given with
  | true =>
    rw [if_pos rfl]
    apply (ends_awaitDead_judged e run t).imp
    intro o u hu
    exact ⟨t.session, ht, hu⟩
  | false =>
    rw [if_neg Bool.false_ne_true, ends_bind, ends_setState, ends_pure]
    exact ⟨t.session, ht, [], by simp, .nil⟩

theorem ends_tell_halt_settled (cmd : ControlCommand) (text : String) :
    Ends (do tell .info text; (byCurl e run.recorded).halt cmd) m
      (fun o t => (byCurl e run).Settled e.httpBaseUrl m.session (o.code = 0) t.session)
      (fun _ _ => True) := by
  apply (ends_tell_ordered e run m .info text).bind
  intro _ t ht
  apply (ends_halt_settled e run t cmd).imp
  rintro o u ⟨v, hv, hu⟩
  exact ⟨v, ht.trans hv, hu⟩

theorem ends_expectFailure_settled : Ends (byCurl e run.recorded).expectFailure m
    (fun o t => (byCurl e run).Settled e.httpBaseUrl m.session (o.code = 0) t.session)
    (fun _ _ => True) := by
  unfold expectFailure
  apply (ends_tell_ordered e run m _ _).bind
  intro _ t ht
  apply (ends_give_ordered e run t .stop).bind
  intro _ u hu
  apply (ends_give_ordered e run u .start).bind
  intro given v hv
  have hordered := (ht.trans hu).trans hv
  cases given with
  | true =>
    apply (ends_awaitDead_judged e run v).imp
    intro o w hw
    exact ⟨v.session, hordered, hw⟩
  | false =>
    apply (ends_tell_ordered e run v _ _).bind
    intro _ w hw
    apply (ends_awaitDead_judged e run w).imp
    intro o x hx
    exact ⟨w.session, hordered.trans hw, hx⟩

theorem ends_findsDead_settled (check : DeathCheck) :
    Ends ((byCurl e run.recorded).findsDead check) m
      (fun dead t => (byCurl e run).Settled (check.url e) m.session dead t.session)
      (fun _ _ => True) := by
  cases check with
  | stop => exact (ends_tell_halt_settled e run m .stop _).bind fun _ _ h => h
  | gracefulStop => exact (ends_tell_halt_settled e run m .gracefulStop _).bind fun _ _ h => h
  | expectFailure => exact (ends_expectFailure_settled e run m).bind fun _ _ h => h
  | isDead url timeout =>
    apply (ends_isDead_judged e run m url timeout).imp
    intro dead t ht
    exact ⟨m.session, .of_eq rfl, ht⟩

/-- A server counts as dead exactly if an attempt to reach it ended with a code that is neither 0
nor that of a time limit. Where every command ran until it ended or its time was over, such an
attempt ran to its end and could not reach the server. -/
theorem ends_findsDead (check : DeathCheck) :
    Ends ((byCurl e run.recorded).findsDead check) m
      (fun dead t => ∃ orders attempts,
        t.session.outside.2 = m.session.outside.2 ++ orders ++ attempts ∧
        (∀ call ∈ orders, ∃ cmd, call.invocation.args = (byCurl e run).args cmd) ∧
        (∀ call ∈ attempts, call.Reaches e (check.url e)) ∧
        (dead = true ↔ ∃ call ∈ attempts, call.result.exitCode ≠ 0 ∧
          call.result.exitCode ≠ Command.exitTimeout ∧ call.result.exitCode ≠ Curl.exitTooLate) ∧
        ((∀ call ∈ attempts, call.result.exitCode < 0 →
            call.result.exitCode = Command.exitTimeout) →
          dead = true → ∃ call ∈ attempts, 0 < call.result.exitCode ∧
            call.result.exitCode ≠ Curl.exitTooLate))
      (fun _ _ => True) := by
  apply (ends_findsDead_settled e run m check).imp
  rintro dead t ⟨u, ⟨orders, hu, horders⟩, attempts, ht, hv⟩
  have hdead := hv.dead
  simp only [Curl.showsRefusal_iff] at hdead
  refine ⟨orders, attempts, by rw [ht, hu], horders, hv.reaches, hdead, ?_⟩
  intro hran h
  obtain ⟨call, hc, hzero, htime, hlate⟩ := hdead.mp h
  have hpos : 0 < call.result.exitCode := by
    have := hran call hc
    omega
  exact ⟨call, hc, hpos, hlate⟩

/-- Curl ends with a code, and every other command succeeds. -/
def curlEnds (e : Environment) (code : Int) : Runner Unit := fun i =>
  return { args := i.args
           exitCode := if i.args.head? = some e.curl then code else 0
           output := []
           errors := [] }

/-- Whether a run finds the server dead and leaves what passes a check. -/
def foundDead (check : Managed σ → Bool) : Except Fault Bool × Managed σ → Bool
  | (.ok dead, t) => dead && check t
  | (.error _, _) => false

theorem exists_of_foundDead {check : Managed σ → Bool} {x : Except Fault Bool × Managed σ}
    (h : foundDead check x = true) : ∃ t, x = (.ok true, t) ∧ check t = true := by
  obtain ⟨dead | fault, t⟩ := x
  · cases h
  · obtain ⟨rfl, hcheck⟩ := Bool.and_eq_true_iff.mp h
    exact ⟨t, rfl, hcheck⟩

/-- A running server is found dead where curl cannot connect. -/
theorem ends_findsDead_refused :
    ∃ t, ((byCurl (.ofSettings {} "w" none none)
        (curlEnds (.ofSettings {} "w" none none) 7).recorded).findsDead .stop).run.run
        ⟨{ state := .running }, { files := ⟨[], []⟩, outside := ((), []) }⟩ = (.ok true, t) ∧
      ∃ call ∈ t.session.outside.2,
        call.Reaches (.ofSettings {} "w" none none)
          (Environment.ofSettings {} "w" none none).httpBaseUrl ∧
        0 < call.result.exitCode ∧ call.result.exitCode ≠ Curl.exitTooLate := by
  have h : foundDead (fun t => t.session.outside.2.all (0 ≤ ·.result.exitCode))
      (((byCurl (.ofSettings {} "w" none none)
        (curlEnds (.ofSettings {} "w" none none) 7).recorded).findsDead .stop).run.run
        ⟨{ state := .running }, { files := ⟨[], []⟩, outside := ((), []) }⟩) = true := by
    decide +kernel
  obtain ⟨t, ht, hcodes⟩ := exists_of_foundDead h
  simp only [List.all_eq_true, decide_eq_true_eq] at hcodes
  obtain ⟨orders, attempts, hrecord, -, hreaches, -, hpositive⟩ :=
    (ends_findsDead (.ofSettings {} "w" none none) _ _ .stop).post_of_run ht
  have hmem : ∀ call ∈ attempts, call ∈ t.session.outside.2 := by
    intro call hc
    rw [hrecord]
    exact List.mem_append_right _ hc
  have hran : ∀ call ∈ attempts, call.result.exitCode < 0 →
      call.result.exitCode = Command.exitTimeout := fun call hc hneg =>
    absurd hneg (Int.not_lt.mpr (hcodes call (hmem call hc)))
  obtain ⟨call, hc, hcode⟩ := hpositive hran rfl
  exact ⟨t, ht, call, hmem call hc, hreaches call hc, hcode⟩

theorem matches_byCurl : (byCurl e run.recorded).Matches (byCurl e run) := by
  constructor
  case env => rfl
  case run => exact agrees_recorded run
  case answers => exact fun url d => (agrees_attempt e run url d).bind fun _ => agrees_pure _
  case refuses => exact fun url d => (agrees_attempt e run url d).bind fun _ => agrees_pure _

/-- Whether a server is found dead does not depend on whether there is a record. -/
theorem agrees_findsDead (check : DeathCheck) : Agrees Managed.forget
    ((byCurl e run.recorded).findsDead check) ((byCurl e run).findsDead check) := by
  have h := matches_byCurl e run
  cases check with
  | stop => exact (agrees_stop h).bind fun _ => agrees_pure _
  | gracefulStop => exact (agrees_gracefulStop h).bind fun _ => agrees_pure _
  | expectFailure => exact (agrees_expectFailure h).bind fun _ => agrees_pure _
  | isDead url timeout => exact agrees_isDead h url timeout

/-- Curl cannot be run, and every other command succeeds. -/
def withoutCurl (e : Environment) : Runner Unit :=
  curlEnds e Command.exitFailed

/-- A running server counts as stopped though curl, which was to reach it, never ran. -/
theorem findsDead_without_curl :
    ∃ t, ((byCurl (.ofSettings {} "w" none none)
        (withoutCurl (.ofSettings {} "w" none none)).recorded).findsDead .stop).run.run
        ⟨{ state := .running }, { files := ⟨[], []⟩, outside := ((), []) }⟩ = (.ok true, t) ∧
      t.control.state = .stopped ∧ ∀ call ∈ t.session.outside.2, call.result.exitCode ≤ 0 := by
  have h : foundDead (fun t => t.control.state = .stopped &&
        t.session.outside.2.all (·.result.exitCode ≤ 0))
      (((byCurl (.ofSettings {} "w" none none)
        (withoutCurl (.ofSettings {} "w" none none)).recorded).findsDead .stop).run.run
        ⟨{ state := .running }, { files := ⟨[], []⟩, outside := ((), []) }⟩) = true := by
    decide +kernel
  obtain ⟨t, ht, hcheck⟩ := exists_of_foundDead h
  simp only [Bool.and_eq_true, decide_eq_true_eq, List.all_eq_true] at hcheck
  exact ⟨t, ht, hcheck.1, hcheck.2⟩

end Controller

end WebTestbed
