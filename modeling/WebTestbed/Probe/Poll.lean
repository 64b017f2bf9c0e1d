import WebTestbed.Probe.Basic

/-! Asking again and again, until the answer is yes or the time is over. -/
namespace WebTestbed.Probe

/-- The time of one attempt, if attempts are not further apart. -/
def attemptTime : Duration := .ofSeconds 1

def timeForAttempt (interval left : Duration) : Duration :=
  (interval.max attemptTime).min left

/-- The moment of the next attempt, after one from `start` to `finish`. Clocks go on meanwhile, also
where neither the attempt nor the interval takes any time. -/
def nextStart (interval start finish deadline : Duration) : Duration :=
  let slept := finish.nanos + Nat.min interval.nanos (deadline.nanos - finish.nanos)
  ⟨slept.max (start.nanos + 1)⟩

theorem lt_nextStart (interval start finish deadline : Duration) :
    start.nanos < (nextStart interval start finish deadline).nanos :=
  Nat.le_max_right ..

/-- Makes attempts at intervals until one succeeds. Each may take no longer than what is left until
the deadline. -/
def pollUntil (interval deadline : Duration) (attempt : Duration → Action σ Bool) (s : Session σ) :
    Except Fault Bool × Session σ :=
  if s.clock.nanos < deadline.nanos then
    let left : Duration := ⟨deadline.nanos - s.clock.nanos⟩
    match (attempt (timeForAttempt interval left)).run.run s with
    | (.ok false, t) =>
      if t.clock.nanos < deadline.nanos then
        pollUntil interval deadline attempt
          { t with clock := nextStart interval s.clock t.clock deadline }
      else (.ok false, t)
    | r => r
  else (.ok false, s)
termination_by deadline.nanos - s.clock.nanos
decreasing_by
  have hgoes := lt_nextStart interval s.clock t.clock deadline
  omega

def poll (interval timeout : Duration) (attempt : Duration → Action σ Bool) : Action σ Bool := do
  let deadline ← Action.deadline timeout
  ExceptT.mk (modifyGet (pollUntil interval deadline attempt))

end WebTestbed.Probe
