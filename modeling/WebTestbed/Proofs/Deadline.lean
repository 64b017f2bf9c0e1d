import WebTestbed.Proofs.Control.Evidence
import WebTestbed.Proofs.Control.Waiting
import WebTestbed.Proofs.Probe.Headers
import WebTestbed.Program

/-! Limits to time. Commands, waiting for a server and tasks that make requests end as they should
where the clock reaches the moment when their time is up. -/
namespace WebTestbed

open Control

variable {σ α : Type}

namespace Action

/-- From any moment on, the step faults only if the clock does not count on for the time. -/
structure Limited (a : Action σ α) (d : Duration) : Prop where
  ends : ∀ s, Ends a s (fun _ _ => True) (fun _ _ => clockLimit ≤ s.clock.nanos + d.nanos)

end Action

/-- Commands end the run only if the clock does not count on for the time that they are given. -/
def Runner.Limited (run : Runner σ) : Prop :=
  ∀ i d, i.timeout = some d → (run i).Limited d

namespace Command

theorem Starter.Releases.limited_run {start : Starter σ} (h : start.Releases) :
    Runner.Limited (run start) := by
  intro i d hd
  constructor
  intro s
  apply (ends_run start i s).mono
  · exact fun _ _ _ => trivial
  · rintro _ _ (⟨-, -, -, d', hd', hover⟩ | ⟨-, -, hend⟩)
    · cases hd.symm.trans hd'
      exact hover
    · exact absurd hend (h.not_endless (hd ▸ rfl) s)

end Command

/-- A poll gives each attempt no more than the time that is left, so that no attempt meets a limit
that the poll has not met before it began. -/
theorem Probe.ends_poll_limited {attempt : Duration → Action σ Bool} {interval timeout : Duration}
    (hattempt : ∀ d, (attempt d).Limited d) {s : Session σ}
    (hlimit : s.clock.nanos + timeout.nanos < Action.clockLimit) :
    Ends (poll interval timeout attempt) s (fun _ _ => True) (fun _ _ => False) := by
  unfold Ends
  rw [run_poll, if_pos hlimit]
  apply ended_pollUntil 0 _ (fun _ _ _ => trivial) _ trivial (Nat.zero_le _)
  intro d t _ _ hd
  apply ((hattempt d).ends t).mono (fun _ _ _ => trivial)
  intro _ _ hover
  exact Nat.not_le_of_lt hlimit (Nat.le_trans hover hd)

/-- Waiting for a server ends with an answer, unless it is to be given up at a moment that the clock
does not reach. -/
theorem Controller.waits_cases (c : Controller σ) (wanted : Wanted) (url : String)
    (timeout : Duration) (m : Managed σ) (hprobe : ∀ d, (c.probe.asks wanted url d).Limited d) :
    m.session.clock.nanos + timeout.nanos < Action.clockLimit ∧
        (∃ reached t, (c.waits wanted url timeout).run.run m = (.ok reached, t)) ∨
      Action.clockLimit ≤ m.session.clock.nanos + timeout.nanos ∧
        (c.waits wanted url timeout).run.run m = (.error .clockOverflow, m) := by
  by_cases hlimit : m.session.clock.nanos + timeout.nanos < Action.clockLimit
  · obtain ⟨reached, s, hpoll, -⟩ := (Probe.ends_poll_limited hprobe hlimit).exists_run
    obtain ⟨t, ht, -⟩ := exists_run_waits hpoll
    exact .inl ⟨hlimit, reached, t, ht⟩
  · exact .inr ⟨Nat.le_of_not_lt hlimit,
      run_waits_of_fault (by rw [Probe.run_poll, if_neg hlimit])⟩

namespace Curl

variable {run : Runner σ}

theorem limited_request (hrun : run.Limited) (e : Environment) {o : CurlOptions} {d : Duration}
    (hd : o.timeout = some d) (urls : List String) : (request e run o urls).run.Limited d := by
  constructor
  intro s
  apply (ends_request_answered e run o urls s).mono
  · exact fun _ _ _ => trivial
  · rintro fault t ⟨args, -, hfault⟩
    have hends := (hrun { args := args, timeout := o.timeout } d hd).ends
      { s with files := s.files.without e.headerFile }
    unfold Ends at hends
    rw [hfault] at hends
    exact hends

/-- Attempts to reach a server by curl keep to the time that they are given. -/
theorem limited_asks (hrun : run.Limited) (e : Environment) (wanted : Wanted) (url : String)
    (d : Duration) : ((probe e run).asks wanted url d).Limited d := by
  have hattempt : ∀ s, Ends (attempt e run url d) s (fun _ _ => True)
      (fun _ _ => Action.clockLimit ≤ s.clock.nanos + d.nanos) := by
    intro s
    unfold attempt
    apply ((limited_request hrun e rfl [url]).ends s).bind
    intro r t _
    cases r with
    | ok r => trivial
    | error err => trivial
  constructor
  intro s
  cases wanted with
  | live => exact (hattempt s).bind fun _ _ _ => trivial
  | dead => exact (hattempt s).bind fun _ _ _ => trivial

end Curl

namespace Program

variable {ε : Type} {m : Managed σ} {post : Except Failure α → Managed σ → Prop}
  {fault : Fault → Managed σ → Prop}

theorem ends_attempt {f : ε → Failure} {a : Action σ (Except ε α)} :
    Ends (attempt f a).run m post fault ↔
      Ends a m.session (fun r s => post (r.mapError f) { m with session := s })
        (fun e s => fault e { m with session := s }) := by
  unfold attempt
  rw [ExceptT.run_mk, ends_bind, ends_lift]
  exact Iff.rfl

/-- No time passes until the settings are read. -/
theorem ends_readEnvironment (given : Option Path) (choice : ModuleChoice) :
    Ends (readEnvironment given choice).run m
      (fun _ t => t.session.clock = m.session.clock) fault := by
  have hread : ∀ {ε α : Type} (f : ε → Failure) (look : FileTree → Except ε α) (m : Managed σ),
      Ends (attempt f (Action.readFiles look)).run m (fun _ t => t = m) fault := by
    intro ε α f look m
    rw [ends_attempt]
    rfl
  unfold readEnvironment
  apply (hread .noSettings _ m).run_bind
  case error =>
    rintro _ _ rfl
    rfl
  rintro file t rfl
  have htell : Ends (tell (σ := σ) .info source ("using config: " ++ Text.quote file.text)).run t
      (fun r u => u.session.clock = t.session.clock) fault := rfl
  apply htell.run_bind
  case error => exact fun _ _ h => h
  intro _ u hu
  apply (hread _ _ u).run_bind
  case error =>
    rintro _ _ rfl
    exact hu
  rintro settings _ rfl
  exact hu

theorem ends_perform_probe {run : Runner σ} (hrun : run.Limited) (env : Environment)
    (urls : List String) (insecure : Bool) (n : Nat) (options : List String) (m : Managed σ) :
    Ends (perform run env (.probe urls insecure n options)).run m (fun _ _ => True)
      (fun _ _ => Action.clockLimit ≤ m.session.clock.nanos + (Duration.ofSeconds n).nanos) := by
  have hrequest : ∀ o : CurlOptions, o.timeout = some (.ofSeconds n) →
      Ends (attempt .request (Curl.request env run o urls).run).run m (fun _ _ => True)
        (fun _ _ => Action.clockLimit ≤ m.session.clock.nanos + (Duration.ofSeconds n).nanos) := by
    intro o ho
    rw [ends_attempt]
    exact (Curl.limited_request hrun env ho urls).ends m.session
  unfold perform
  apply (hrequest _ rfl).run_bind
  case ok => exact fun _ _ _ => trivial
  case error => exact fun _ _ _ => trivial

/-- A task that makes requests ends with a report, or says why not, if the clock counts on for the
time that the requests may take. -/
theorem ends_follow_probe {run : Runner σ} (hrun : run.Limited) (choice : ModuleChoice)
    {a : CommandLine.Arguments} {urls options : List String} {insecure : Bool} {n : Nat}
    (ha : a.task = .probe urls insecure n options) (m : Managed σ) :
    Ends (follow run choice a).run m (fun _ _ => True)
      (fun _ _ => Action.clockLimit ≤ m.session.clock.nanos + (Duration.ofSeconds n).nanos) := by
  have htell : Ends (tell (σ := σ) .debug "httpd_harness"
      (CommandLine.programSpec.name ++ " " ++ version ++ ": " ++ a.task.text)).run m
      (fun _ t => t.session.clock = m.session.clock)
      (fun _ _ => Action.clockLimit ≤ m.session.clock.nanos + (Duration.ofSeconds n).nanos) := rfl
  unfold follow
  apply htell.run_bind
  case error => exact fun _ _ _ => trivial
  intro _ t ht
  apply (ends_readEnvironment a.configFile choice).run_bind
  case error => exact fun _ _ _ => trivial
  intro env u hu
  rw [ha, ← ht, ← hu]
  exact ends_perform_probe hrun env urls insecure n options u

end Program

/-- A command has a result, which shows by its exit code what went wrong, unless it can be started
and either the clock does not count on to the moment when its time is up, which ends the run, or
nothing ends the wait for it. With a limit to its time that wait has an end, in a system where pipes
are closed once their command has ended or was killed. Then also waiting for a server ends with an
answer, and a task that makes requests with what comes of them, where the clock counts on to the
moment when the time is up. Where it does not, waiting ends the run. -/
theorem limits_within_clock (σ : Type) (start : Command.Starter σ) :
    (∀ (i : Invocation) (s : Session σ),
      (¬ Command.Overlong start i s ∧ ¬ Command.Endless start i s ∧
          ∃ r t, (Command.run start i).run.run s = (.ok r, t) ∧ Command.Reported start i s r) ∨
        (Command.Overlong start i s ∧
          ∃ t, (Command.run start i).run.run s = (.error .clockOverflow, t)) ∨
        ¬ Command.Overlong start i s ∧ Command.Endless start i s ∧
          ∃ t, (Command.run start i).run.run s = (.error .endless, t)) ∧
    (∀ (c : Controller σ) (wanted : Wanted) (url : String) (timeout : Duration) (m : Managed σ),
      (∀ d, (c.probe.asks wanted url d).Limited d) →
        (m.session.clock.nanos + timeout.nanos < Action.clockLimit ∧
            ∃ reached t, (c.waits wanted url timeout).run.run m = (.ok reached, t)) ∨
          Action.clockLimit ≤ m.session.clock.nanos + timeout.nanos ∧
            (c.waits wanted url timeout).run.run m = (.error .clockOverflow, m)) ∧
    (start.Releases →
      (∀ (i : Invocation) (s : Session σ), i.timeout.isSome → ¬ Command.Endless start i s) ∧
      (∀ (e : Environment) (wanted : Wanted) (url : String) (d : Duration),
        ((Controller.byCurl e (Command.run start)).probe.asks wanted url d).Limited d) ∧
      ∀ (choice : Program.ModuleChoice) (a : CommandLine.Arguments) (urls : List String)
        (insecure : Bool) (n : Nat) (options : List String) (m : Managed σ),
        a.task = .probe urls insecure n options →
          m.session.clock.nanos + (Duration.ofSeconds n).nanos < Action.clockLimit →
            ∃ r t, (Program.follow (Command.run start) choice a).run.run.run m = (.ok r, t)) := by
  refine ⟨Command.run_cases start, fun c => c.waits_cases, fun h => ⟨fun i s hi => h.not_endless hi s,
    Curl.limited_asks h.limited_run, ?_⟩⟩
  intro choice a urls insecure n options m ha hlimit
  have hends := (Program.ends_follow_probe h.limited_run choice ha m).mono
    (fun _ _ h => h) fun _ _ hover => Nat.not_le_of_lt hlimit hover
  obtain ⟨r, t, hr, -⟩ := hends.exists_run
  exact ⟨r, t, hr⟩

/-- A system in which `sleep` goes on until it is killed, `true` ends at once, and everything else
ends at once for want of a server. -/
def idleSystem : Command.Starter Unit := fun args _ s =>
  let left (moment : Duration) : Command.Remains Unit := ⟨moment, s.files, (), [], []⟩
  let code : Int := if args = ["true"] then 0 else 7
  let endless : Bool := args.head? = some "sleep"
  .ok { ending := if endless then none else some (s.clock, .exited code)
        remains := some (left s.clock), killed := fun moment => some (left moment)
        killError := fun _ => none }

theorem releases_idleSystem : idleSystem.Releases := by
  constructor
  · rintro args input s c ⟨⟩ -
    rfl
  · rintro args input s c ⟨⟩ moment
    rfl

theorem limits_within_clock_greatest :
    let c : Controller Unit := .byCurl (.ofSettings {} "w" none none) (Command.run idleSystem)
    let m : Managed Unit := ⟨{}, { files := ⟨[], []⟩, outside := () }⟩
    let longest := Duration.ofSeconds (2 ^ 63 - 1)
    let a : CommandLine.Arguments := { task := .probe ["http://a/"] false (2 ^ 63 - 1) [] }
    m.session.clock.nanos + longest.nanos < Action.clockLimit ∧ idleSystem.Releases ∧
      (∃ r t, (Command.run idleSystem { args := ["sleep", "1d"], timeout := some longest }).run.run
        m.session = (.ok r, t) ∧ r.exitCode = Command.exitTimeout) ∧
      (∃ t, (Command.run idleSystem { args := ["sleep", "1d"] }).run.run m.session =
        (.error .endless, t)) ∧
      (∀ d, (c.probe.asks .live "http://a/" d).Limited d) ∧
      (∃ reached t, (c.waits .live "http://a/" longest).run.run m = (.ok reached, t)) ∧
      ∃ r t, (Program.follow (Command.run idleSystem) {} a).run.run.run m = (.ok r, t) := by
  intro c m longest a
  have hlimit : m.session.clock.nanos + longest.nanos < Action.clockLimit := by decide +kernel
  obtain ⟨hrun, hwaits, hreleases⟩ := limits_within_clock Unit idleSystem
  obtain ⟨hstopped, hasks, hfollow⟩ := hreleases releases_idleSystem
  have hlive : ∀ d, (c.probe.asks .live "http://a/" d).Limited d := hasks _ .live "http://a/"
  refine ⟨hlimit, releases_idleSystem, ?_, ?_, hlive, ?_, hfollow {} a _ _ _ _ m rfl hlimit⟩
  · obtain ⟨-, -, r, t, hr, hreported⟩ | ⟨⟨-, -, d, hd, hover⟩, -⟩ | ⟨-, hend, -⟩ :=
      hrun { args := ["sleep", "1d"], timeout := some longest } m.session
    · refine ⟨r, t, hr, ?_⟩
      cases hreported with
      | nothingGiven hnil => cases hnil
      | notStarted _ hc => cases hc
      | ended _ hc hx =>
        cases hc
        cases hx
        rfl
    · cases hd
      exact absurd hover (Nat.not_le_of_lt hlimit)
    · exact absurd hend (hstopped _ _ rfl)
  · obtain ⟨-, hend, -⟩ | ⟨⟨-, -, d, hd, -⟩, -⟩ | ⟨-, -, h⟩ :=
      hrun { args := ["sleep", "1d"] } m.session
    · exact absurd ⟨nofun, _, rfl, rfl⟩ hend
    · cases hd
    · exact h
  · obtain ⟨-, h⟩ | ⟨hover, -⟩ := hwaits c .live "http://a/" longest m hlive
    · exact h
    · exact absurd hover (Nat.not_le_of_lt hlimit)

/-- The command line accepts more seconds than the clock counts, and in the time that they give not
even a command that ends at once has a result. -/
theorem no_result_past_clock :
    let i : Invocation := { args := ["true"], timeout := some (.ofSeconds (2 ^ 64 - 1)) }
    let s : Session Unit := { files := ⟨[], []⟩, outside := () }
    (∃ a, CommandLine.read ["probe", "--timeout", "18446744073709551615", "http://a/"] = .ok a ∧
      a.task = .probe ["http://a/"] false (2 ^ 64 - 1) []) ∧
    (∃ child, idleSystem i.args i.input s = .ok child ∧
      child.ending = some (s.clock, .exited 0) ∧ child.remains.isSome) ∧
    ∀ r t, (Command.run idleSystem i).run.run s ≠ (.ok r, t) := by
  intro i s
  refine ⟨?_, ⟨_, rfl, rfl, rfl⟩, ?_⟩
  · have hread : (CommandLine.read ["probe", "--timeout", "18446744073709551615", "http://a/"]).map
        (·.task) = .ok (.probe ["http://a/"] false (2 ^ 64 - 1) []) := by decide +kernel
    cases h : CommandLine.read ["probe", "--timeout", "18446744073709551615", "http://a/"] with
    | ok a =>
      rw [h] at hread
      exact ⟨a, rfl, Except.ok.inj hread⟩
    | error err =>
      rw [h] at hread
      cases hread
  · intro r t hr
    have hover : Action.clockLimit ≤ s.clock.nanos + (Duration.ofSeconds (2 ^ 64 - 1)).nanos := by
      decide +kernel
    have hoverlong : Command.Overlong idleSystem i s := ⟨nofun, ⟨_, rfl⟩, _, rfl, hover⟩
    obtain ⟨hnot, -⟩ | ⟨-, u, hu⟩ | ⟨hnot, -⟩ := Command.run_cases idleSystem i s
    · exact hnot hoverlong
    · cases hr.symm.trans hu
    · exact hnot hoverlong

end WebTestbed
