import WebTestbed.Proofs.Probe.Poll
import WebTestbed.Control.Basic

/-! Runs that keep a record of the commands they run. -/
namespace WebTestbed

variable {σ τ α : Type}

/-- A command that was run, and how it ended. -/
structure Call where
  invocation : Invocation
  result : Command.Result

/-- The session with something else outside. -/
def Session.withOutside (s : Session σ) (outside : τ) : Session τ :=
  { s with outside := outside }

/-- The step where there is more outside than it knows of. -/
def Action.beside (a : Action σ α) : Action (σ × τ) α :=
  ExceptT.mk (modifyGet fun s =>
    let (r, t) := a.run.run (s.withOutside s.outside.1)
    (r, t.withOutside (t.outside, s.outside.2)))

/-- Adds a command to the record. -/
def Action.record (call : Call) : Action (σ × List Call) Unit :=
  modify fun s => s.withOutside (s.outside.1, s.outside.2 ++ [call])

def Runner.recorded (run : Runner σ) : Runner (σ × List Call) := fun invocation => do
  let r ← (run invocation).beside
  Action.record ⟨invocation, r⟩
  return r

def Probe.beside (probe : Probe σ) : Probe (σ × τ) :=
  ⟨fun url d => (probe.answers url d).beside, fun url d => (probe.refuses url d).beside⟩

def Controller.recorded (c : Controller σ) : Controller (σ × List Call) :=
  ⟨c.env, c.run.recorded, c.probe.beside⟩

theorem Action.ends_beside {a : Action σ α} {s : Session (σ × τ)} :
    Ends a.beside s (fun _ t => t.outside.2 = s.outside.2)
      (fun _ t => ∀ d, a.Within d → clockLimit ≤ t.clock.nanos + d.nanos) := by
  unfold beside
  rw [ends_mk]
  cases hr : a.run.run (s.withOutside s.outside.1) with
  | mk r t =>
    cases r with
    | ok x => rfl
    | error e =>
      intro d hd
      have h := hd (s.withOutside s.outside.1)
      unfold Ends at h
      rw [hr] at h
      exact h

theorem Runner.ends_recorded {run : Runner σ} {invocation : Invocation}
    {s : Session (σ × List Call)} : Ends (run.recorded invocation) s
      (fun r t => t.outside.2 = s.outside.2 ++ [⟨invocation, r⟩])
      (fun _ t => ∀ d, (run invocation).Within d →
        Action.clockLimit ≤ t.clock.nanos + d.nanos) := by
  unfold recorded
  apply Action.ends_beside.bind
  intro r t ht
  unfold Action.record
  rw [ends_bind, ends_modify, ends_pure]
  change t.outside.2 ++ [_] = _
  rw [ht]

section Poll

variable {attempt : Duration → Action σ Bool} {interval timeout : Duration} {s : Session (σ × τ)}

/-- Attempts that know nothing of the record leave it alone. -/
theorem Probe.ends_poll_beside : Ends (poll interval timeout fun d => (attempt d).beside) s
    (fun _ t => t.outside.2 = s.outside.2)
    (fun _ t => (∀ d, (attempt d).Within d) →
      Action.clockLimit ≤ t.clock.nanos + timeout.nanos) := by
  have hattempt : ∀ d (t : Session (σ × τ)), t.outside.2 = s.outside.2 → d.nanos ≤ timeout.nanos →
      Ends (attempt d).beside t (fun _ t => t.outside.2 = s.outside.2)
        (fun _ t => (∀ d, (attempt d).Within d) →
          Action.clockLimit ≤ t.clock.nanos + timeout.nanos) := by
    intro d t ht hd
    apply Action.ends_beside.mono
    · intro _ u hu
      exact hu.trans ht
    · intro _ u hu hall
      have h := hu d (hall d)
      omega
  have hpoll : Ends (poll interval timeout fun d => (attempt d).beside) s
      (fun _ t => t.outside.2 = s.outside.2)
      (fun _ t => ((∀ d, (attempt d).Within d) →
        Action.clockLimit ≤ t.clock.nanos + timeout.nanos) ∨
          Action.clockLimit ≤ s.clock.nanos + timeout.nanos ∧ t = s) :=
    ends_poll timeout (fun _ _ h => h) hattempt rfl
  apply hpoll.mono
  · intro _ _ h
    exact h
  · rintro _ t (h | ⟨h, rfl⟩) hall
    · exact h hall
    · exact h

end Poll

end WebTestbed
