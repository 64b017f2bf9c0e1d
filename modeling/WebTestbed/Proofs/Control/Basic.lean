import WebTestbed.Proofs.Control.Record

/-! What the parts of an operation do to the server that is controlled, to the time that it is given
and to the record of commands. -/
namespace WebTestbed

open Control

variable {σ α : Type}

namespace Control

section Ends

variable {m : Managed σ} {fault : Fault → Managed σ → Prop}

@[simp] theorem ends_lift {a : Action σ α} {post : α → Managed σ → Prop} :
    Ends (lift a) m post fault ↔ Ends a m.session (fun x s => post x { m with session := s })
      (fun e s => fault e { m with session := s }) := by
  unfold lift
  rw [ends_mk]
  unfold Ends
  obtain ⟨_ | _, _⟩ := a.run.run m.session
  · rfl
  · rfl

@[simp] theorem ends_current {post : Control → Managed σ → Prop} :
    Ends current m post fault ↔ post m.control m :=
  Iff.rfl

@[simp] theorem ends_update {f : Control → Control} {post : Unit → Managed σ → Prop} :
    Ends (update f) m post fault ↔ post () { m with control := f m.control } :=
  Iff.rfl

@[simp] theorem ends_setState {state : ServerState} {post : Unit → Managed σ → Prop} :
    Ends (setState state) m post fault ↔
      post () { m with control := { m.control with state := state } } :=
  Iff.rfl

end Ends

/-- The commands in the record, first first. -/
def Managed.commands (m : Managed (σ × List Call)) : List (List String) :=
  m.session.outside.2.map (·.invocation.args)

/-- From `m`, the commands lead to `t`, where the server counts as being in the state. -/
structure Reached (m : Managed (σ × List Call)) (commands : List (List String))
    (state : ServerState) (t : Managed (σ × List Call)) : Prop where
  state : t.control.state = state
  timeout : t.control.timeout = m.control.timeout
  interval : t.control.interval = m.control.interval
  commands : t.commands = m.commands ++ commands

section Reached

variable {m t u : Managed (σ × List Call)} {before after : List (List String)}
  {state state' : ServerState}

theorem Reached.trans (h : Reached m before state t) (h' : Reached t after state' u) :
    Reached m (before ++ after) state' u := by
  constructor
  · exact h'.state
  · exact h'.timeout.trans h.timeout
  · exact h'.interval.trans h.interval
  · rw [h'.commands, h.commands, List.append_assoc]

/-- Nothing but the session has changed, and in it not the record. -/
theorem reached_withSession {s : Session (σ × List Call)}
    (h : s.outside.2 = m.session.outside.2) :
    Reached m [] m.control.state { m with session := s } := by
  constructor
  · rfl
  · rfl
  · rfl
  · change s.outside.2.map _ = _
    rw [h, List.append_nil]
    rfl

theorem reached_setState (m : Managed (σ × List Call)) (state : ServerState) :
    Reached m [] state { m with control := { m.control with state := state } } := by
  constructor
  · rfl
  · rfl
  · rfl
  · exact (List.append_nil _).symm

end Reached

theorem ends_tell {m : Managed (σ × List Call)} {level : Level} {text : String}
    {fault : Fault → Managed (σ × List Call) → Prop} :
    Ends (tell level text) m (fun _ t => Reached m [] m.control.state t) fault := by
  unfold tell
  rw [ends_lift, Action.ends_tell]
  exact reached_withSession rfl

end Control

namespace Controller

/-- Commands and questions end a run only where clocks do not count on for the time they have. -/
structure Timely (c : Controller σ) : Prop where
  run : ∀ invocation d, invocation.timeout = some d → (c.run invocation).Within d
  answers : ∀ url d, (c.probe.answers url d).Within d
  refuses : ∀ url d, (c.probe.refuses url d).Within d

/-- A timely controller faults only where clocks do not count on for its times. -/
def Late (c : Controller σ) (k : Control) : Fault → Managed (σ × List Call) → Prop := fun _ t =>
  c.Timely → Action.clockLimit ≤ t.session.clock.nanos + (k.timeout.max k.interval).nanos

theorem late_of_timeout {k : Control} {clock : Duration}
    (h : Action.clockLimit ≤ clock.nanos + k.timeout.nanos) :
    Action.clockLimit ≤ clock.nanos + (k.timeout.max k.interval).nanos :=
  Nat.le_trans h (Nat.add_le_add_left (Nat.le_max_left _ _) _)

theorem Late.of_reached {c : Controller σ} {m t u : Managed (σ × List Call)}
    {commands : List (List String)} {state : ServerState} {fault : Fault}
    (h : Reached m commands state t) (hl : c.Late t.control fault u) :
    c.Late m.control fault u := by
  unfold Late at *
  rw [← h.timeout, ← h.interval]
  exact hl

/-- A step on the way from `m` that is late is late for the times at `m`. -/
theorem ends_of_reached {c : Controller σ} {m t : Managed (σ × List Call)}
    {commands : List (List String)} {state : ServerState} (h : Reached m commands state t)
    {x : Step (σ × List Call) α} {post : α → Managed (σ × List Call) → Prop}
    (hx : Ends x t post (c.Late t.control)) : Ends x t post (c.Late m.control) :=
  hx.mono (fun _ _ h => h) (fun _ _ => Late.of_reached h)

variable (c : Controller σ) (m : Managed (σ × List Call))

theorem ends_give (cmd : ControlCommand) : Ends (c.recorded.give cmd) m
    (fun _ t => Reached m [c.args cmd] m.control.state t) (c.Late m.control) := by
  unfold give
  rw [ends_bind, ends_current, ends_bind, ends_lift]
  apply Runner.ends_recorded.mono
  · intro r s hs
    rw [ends_bind, ends_update]
    have hr : Reached m [c.args cmd] m.control.state
        ⟨{ m.control with errors := r.stderr }, s⟩ := by
      constructor
      · rfl
      · rfl
      · rfl
      · change s.outside.2.map _ = _
        rw [hs, List.map_append]
        rfl
    by_cases h : r.succeeded
    · simpa [h] using hr
    · rw [if_pos (by simpa using h), ends_bind]
      apply ends_tell.mono
      · intro _ t ht
        exact hr.trans ht
      · intro _ _ h
        exact h
  · intro _ t h hc
    exact late_of_timeout (h m.control.timeout (hc.run _ _ rfl))

/-- The server is asked again and again, by questions that know nothing of the record. -/
theorem ends_ask {attempt : Duration → Action σ Bool} {timeout : Duration} {text : String} :
    Ends (do
      let found ← lift (Probe.poll (← current).interval timeout fun d => (attempt d).beside)
      if !found then tell .debug text
      return found) m
    (fun _ t => Reached m [] m.control.state t) (fun _ t => (∀ d, (attempt d).Within d) →
      Action.clockLimit ≤ t.session.clock.nanos + timeout.nanos) := by
  rw [ends_bind, ends_current, ends_bind, ends_lift]
  apply Probe.ends_poll_beside.mono
  · intro found s hs
    have hr := reached_withSession hs
    by_cases h : found
    · simpa [h] using hr
    · rw [if_pos (by simpa using h), ends_bind]
      apply ends_tell.mono
      · intro _ t ht
        exact hr.trans ht
      · intro _ _ h
        exact h
  · intro _ _ h
    exact h

theorem ends_isLive (url : String) : Ends (c.recorded.isLive url m.control.timeout) m
    (fun _ t => Reached m [] m.control.state t) (c.Late m.control) := by
  apply (ends_ask m).mono
  · intro _ _ h
    exact h
  · intro _ t h hc
    exact late_of_timeout (h (hc.answers url))

theorem ends_isDead (url : String) : Ends (c.recorded.isDead url m.control.timeout) m
    (fun _ t => Reached m [] m.control.state t) (c.Late m.control) := by
  apply (ends_ask m).mono
  · intro _ _ h
    exact h
  · intro _ t h hc
    exact late_of_timeout (h (hc.refuses url))

end Controller

end WebTestbed
