import WebTestbed.Proofs.Control.Basic

/-! The life of a server under control: what operations leave behind, one after the other. -/
namespace WebTestbed

open Control

variable {σ : Type}

/-- The state after a start. -/
@[simp] def Outcome.afterStart : Outcome → ServerState
  | done => .running
  | refused | missed => .stopped

/-- The state after a stop. -/
@[simp] def Outcome.afterStop (before : ServerState) : Outcome → ServerState
  | done => .stopped
  | refused => before
  | missed => .running

/-- The state after a reload. -/
@[simp] def Outcome.afterReload (before : ServerState) : Outcome → ServerState
  | done => .running
  | refused => before
  | missed => .stopped

/-- What can be done with a server under control. -/
inductive Operation where
  | start
  | stop
  | gracefulStop
  | reload
  | restart
  | hardRestart
  | expectFailure
  | observe
  deriving DecidableEq

/-- The states in which an operation may leave a server that it found in the state `before`. -/
def Operation.leaves (before : ServerState) : Operation → Outcome → List ServerState
  | .start, o => [o.afterStart]
  | .stop, o | .gracefulStop, o => [o.afterStop before]
  | .reload, o | .restart, o => [o.afterReload before]
  | .hardRestart, .missed => [.stopped, .running]
  | .hardRestart, o => [o.afterStart]
  | .expectFailure, .refused => []
  | .expectFailure, o => [o.afterStop before]
  | .observe, _ => []

namespace Controller

variable (c : Controller σ) (m : Managed (σ × List Call))

theorem ends_awaitLive : Ends c.recorded.awaitLive m
    (fun o t => o ≠ .refused ∧ Reached m [] o.afterStart t) (c.Late m.control) := by
  unfold awaitLive
  rw [ends_bind, ends_current]
  apply (ends_isLive c m _).bind
  intro found t ht
  by_cases h : found
  · rw [if_pos h, ends_bind, ends_setState, ends_pure]
    exact ⟨by decide, ht.trans (reached_setState t .running)⟩
  · rw [if_neg h, ends_bind, ends_setState, ends_pure]
    exact ⟨by decide, ht.trans (reached_setState t .stopped)⟩

theorem ends_awaitDead : Ends c.recorded.awaitDead m
    (fun o t => o ≠ .refused ∧ ∀ before, Reached m [] (o.afterStop before) t)
    (c.Late m.control) := by
  unfold awaitDead
  rw [ends_bind, ends_current]
  apply (ends_isDead c m _).bind
  intro found t ht
  by_cases h : found
  · rw [if_pos h, ends_bind, ends_setState, ends_pure]
    exact ⟨by decide, fun _ => ht.trans (reached_setState t .stopped)⟩
  · rw [if_neg h, ends_bind, ends_setState, ends_pure]
    exact ⟨by decide, fun _ => ht.trans (reached_setState t .running)⟩

theorem ends_start : Ends c.recorded.start m
    (fun o t => Reached m [c.args .start] o.afterStart t) (c.Late m.control) := by
  unfold start
  apply ends_tell.bind
  intro _ t ht
  rw [ends_bind, ends_setState]
  have hs := ht.trans (reached_setState t .starting)
  apply (ends_of_reached hs (ends_give c _ .start)).bind
  intro given u hu
  have hg := hs.trans hu
  by_cases h : given
  · rw [if_pos h]
    apply (ends_of_reached hg (ends_awaitLive c u)).imp
    intro o v hv
    exact hg.trans hv.2
  · rw [if_neg h, ends_bind, ends_setState, ends_pure]
    exact hg.trans (reached_setState u .stopped)

theorem ends_halt (cmd : ControlCommand) : Ends (c.recorded.halt cmd) m
    (fun o t => Reached m [c.args cmd] (o.afterStop m.control.state) t) (c.Late m.control) := by
  unfold halt
  rw [ends_bind, ends_current, ends_bind, ends_setState]
  have hs := reached_setState m .stopping
  apply (ends_of_reached hs (ends_give c _ cmd)).bind
  intro given t ht
  have hg := hs.trans ht
  by_cases h : given
  · rw [if_pos h]
    apply (ends_of_reached hg (ends_awaitDead c t)).imp
    intro o u hu
    exact hg.trans (hu.2 _)
  · rw [if_neg h, ends_bind, ends_setState, ends_pure]
    exact hg.trans (reached_setState t _)

theorem ends_tell_halt (cmd : ControlCommand) (text : String) :
    Ends (do tell .info text; c.recorded.halt cmd) m
      (fun o t => Reached m [c.args cmd] (o.afterStop m.control.state) t) (c.Late m.control) := by
  apply ends_tell.bind
  intro _ t ht
  apply (ends_of_reached ht (ends_halt c t cmd)).imp
  intro o u hu
  rw [← ht.state]
  exact ht.trans hu

theorem ends_stop : Ends c.recorded.stop m
    (fun o t => Reached m [c.args .stop] (o.afterStop m.control.state) t) (c.Late m.control) :=
  ends_tell_halt c m .stop _

theorem ends_gracefulStop : Ends c.recorded.gracefulStop m
    (fun o t => Reached m [c.args .gracefulStop] (o.afterStop m.control.state) t)
    (c.Late m.control) :=
  ends_tell_halt c m .gracefulStop _

theorem ends_reload : Ends c.recorded.reload m
    (fun o t => Reached m [c.args .graceful] (o.afterReload m.control.state) t)
    (c.Late m.control) := by
  unfold reload
  apply ends_tell.bind
  intro _ t ht
  apply (ends_of_reached ht (ends_give c t .graceful)).bind
  intro given u hu
  have hg := ht.trans hu
  by_cases h : given
  · rw [if_pos h]
    apply (ends_of_reached hg (ends_awaitLive c u)).imp
    intro o v hv
    have ho : o.afterStart = o.afterReload m.control.state := by
      cases o with
      | refused => exact absurd rfl hv.1
      | _ => rfl
    exact ho ▸ hg.trans hv.2
  · rw [if_neg h, ends_pure]
    have hstate : u.control.state = m.control.state := by rw [hg.state, ht.state]
    exact ⟨hstate, hg.timeout, hg.interval, hg.commands⟩

/-- Where the state is settled, a start that fails leaves it as a reload would. -/
theorem ends_restart (hm : m.control.state = .stopped ∨ m.control.state = .running) :
    Ends c.recorded.restart m
      (fun o t => Reached m [c.args (if m.control.state = .running then .graceful else .start)]
        (o.afterReload m.control.state) t) (c.Late m.control) := by
  unfold restart
  rw [ends_bind, ends_current]
  by_cases h : m.control.state = .running
  · rw [if_pos h, if_pos h]
    exact ends_reload c m
  · rw [if_neg h, if_neg h]
    have hstopped := hm.resolve_right h
    apply (ends_start c m).imp
    intro o t ht
    have ho : o.afterStart = o.afterReload m.control.state := by
      rw [hstopped]
      cases o with
      | _ => rfl
    exact ho ▸ ht

theorem ends_hardRestart : Ends c.recorded.hardRestart m
    (fun o t => ∃ commands state, Reached m commands state t ∧
      state ∈ Operation.hardRestart.leaves m.control.state o) (c.Late m.control) := by
  unfold hardRestart
  apply (ends_stop c m).bind
  intro o t ht
  have hstart : Ends c.recorded.start t
      (fun o u => ∃ commands state, Reached m commands state u ∧
        state ∈ Operation.hardRestart.leaves m.control.state o) (c.Late m.control) := by
    apply (ends_of_reached ht (ends_start c t)).imp
    intro o u hu
    refine ⟨_, _, ht.trans hu, ?_⟩
    cases o with
    | _ => simp [Operation.leaves]
  cases o with
  | done => exact hstart
  | refused => exact hstart
  | missed => exact ⟨_, _, ht, by simp [Operation.leaves]⟩

theorem ends_expectFailure : Ends c.recorded.expectFailure m
    (fun o t => ∃ commands state, Reached m commands state t ∧
      state ∈ Operation.expectFailure.leaves m.control.state o) (c.Late m.control) := by
  unfold expectFailure
  apply ends_tell.bind
  intro _ t ht
  apply (ends_of_reached ht (ends_give c t .stop)).bind
  intro _ u hu
  have hs := ht.trans hu
  apply (ends_of_reached hs (ends_give c u .start)).bind
  intro given v hv
  have hg := hs.trans hv
  have hdead : ∀ w commands, Reached m commands v.control.state w →
      Ends c.recorded.awaitDead w
        (fun o t => ∃ commands state, Reached m commands state t ∧
          state ∈ Operation.expectFailure.leaves m.control.state o) (c.Late m.control) := by
    intro w commands hw
    apply (ends_of_reached hw (ends_awaitDead c w)).imp
    rintro o x ⟨ho, hx⟩
    refine ⟨_, _, hw.trans (hx m.control.state), ?_⟩
    cases o with
    | refused => exact absurd rfl ho
    | _ => exact List.mem_singleton_self _
  by_cases h : given
  · rw [if_neg (by simpa using h)]
    exact hdead v _ (hg.state ▸ hg)
  · rw [if_pos (by simpa using h)]
    apply ends_tell.bind
    intro _ w hw
    exact hdead w _ (hg.trans hw)

theorem ends_observe : Ends c.recorded.observe m
    (fun state t => (state = .stopped ∨ state = .running) ∧ Reached m [] state t)
    (c.Late m.control) := by
  unfold observe
  rw [ends_bind, ends_current, ends_bind, ends_lift]
  apply Action.ends_beside.mono
  · intro found s hs
    have hr := reached_withSession hs
    rw [ends_bind, ends_setState, ends_pure]
    refine ⟨?_, hr.trans (reached_setState _ _)⟩
    by_cases h : found
    · rw [if_pos h]
      exact .inr rfl
    · rw [if_neg h]
      exact .inl rfl
  · intro _ t h hc
    have hlate := h m.control.interval (hc.answers _ _)
    exact Nat.le_trans hlate (Nat.add_le_add_left (Nat.le_max_right _ _) _)

end Controller

/-- What an operation gives back. -/
inductive Reply where
  | code (n : Int)
  | state (s : ServerState)
  deriving DecidableEq

/-- An operation in a run: the states before and after it, and the commands that it gave. -/
structure Event where
  operation : Operation
  before : ServerState
  reply : Reply
  after : ServerState
  commands : List (List String)
  deriving DecidableEq

/-- The reply, the states and the commands of the operation fit each other. -/
structure Event.Coherent (args : ControlCommand → List String) (e : Event) : Prop where
  settled : e.after = .stopped ∨ e.after = .running
  codes : e.operation ≠ .observe → e.reply ∈
    [.code Outcome.done.code, .code Outcome.refused.code, .code Outcome.missed.code]
  observed : e.operation = .observe → e.reply = .state e.after
  done_running : e.operation ∈ [.start, .reload, .restart, .hardRestart] →
    e.reply = .code Outcome.done.code → e.after = .running
  done_stopped : e.operation ∈ [.stop, .gracefulStop, .expectFailure] →
    e.reply = .code Outcome.done.code → e.after = .stopped
  refused_kept : e.operation ∈ [.stop, .gracefulStop, .reload, .restart] →
    e.reply = .code Outcome.refused.code → e.after = e.before
  refused_stopped : e.operation ∈ [.start, .hardRestart] →
    e.reply = .code Outcome.refused.code → e.after = .stopped
  not_refused : e.operation = .expectFailure → e.reply ≠ .code Outcome.refused.code
  missed_running : e.operation ∈ [.stop, .gracefulStop, .expectFailure] →
    e.reply = .code Outcome.missed.code → e.after = .running
  missed_stopped : e.operation ∈ [.start, .reload, .restart] →
    e.reply = .code Outcome.missed.code → e.after = .stopped
  restarted : e.operation = .restart →
    e.commands = [args (if e.before = .running then .graceful else .start)]

theorem Outcome.code_inj {o o' : Outcome} (h : Reply.code o.code = .code o'.code) : o = o' := by
  cases o with
  | _ => cases o' with
    | _ => first | rfl | exact absurd h (by decide)

section Leaves

variable {op : Operation} {before after : ServerState} {o : Outcome}

theorem settled_of_leaves (hb : before = .stopped ∨ before = .running)
    (hl : after ∈ op.leaves before o) : after = .stopped ∨ after = .running := by
  cases op with
  | _ => cases o with
    | _ => simp_all [Operation.leaves]

/-- Where all operations of a list leave one state if they end so, that is the state. -/
theorem after_of_leaves (hl : after ∈ op.leaves before o) {ops : List Operation} {o' : Outcome}
    {state : ServerState} (hs : ∀ p ∈ ops, p.leaves before o' = [state]) (hop : op ∈ ops)
    (hcode : Reply.code o.code = .code o'.code) : after = state := by
  obtain rfl : o = o' := Outcome.code_inj hcode
  rw [hs op hop] at hl
  exact List.mem_singleton.mp hl

theorem coherent_of_leaves {args : ControlCommand → List String} {commands : List (List String)}
    (hb : before = .stopped ∨ before = .running) (hl : after ∈ op.leaves before o)
    (hc : op = .restart →
      commands = [args (if before = .running then .graceful else .start)]) :
    Event.Coherent args ⟨op, before, .code o.code, after, commands⟩ := by
  constructor
  case settled => exact settled_of_leaves hb hl
  case codes =>
    intro _
    cases o with
    | _ => simp
  case observed =>
    rintro rfl
    exact absurd hl List.not_mem_nil
  case done_running => exact after_of_leaves hl (by simp [Operation.leaves])
  case done_stopped => exact after_of_leaves hl (by simp [Operation.leaves])
  case refused_kept => exact after_of_leaves hl (by simp [Operation.leaves])
  case refused_stopped => exact after_of_leaves hl (by simp [Operation.leaves])
  case not_refused =>
    rintro rfl hcode
    obtain rfl : o = .refused := Outcome.code_inj hcode
    exact absurd hl List.not_mem_nil
  case missed_running => exact after_of_leaves hl (by simp [Operation.leaves])
  case missed_stopped => exact after_of_leaves hl (by simp [Operation.leaves])
  case restarted => exact hc

end Leaves

namespace Controller

def perform (c : Controller σ) : Operation → Step σ Reply
  | .start => return .code (← c.start).code
  | .stop => return .code (← c.stop).code
  | .gracefulStop => return .code (← c.gracefulStop).code
  | .reload => return .code (← c.reload).code
  | .restart => return .code (← c.restart).code
  | .hardRestart => return .code (← c.hardRestart).code
  | .expectFailure => return .code (← c.expectFailure).code
  | .observe => return .state (← c.observe)

/-- Performs the operation and tells of it. -/
def event (c : Controller (σ × List Call)) (op : Operation) : Step (σ × List Call) Event := do
  let m ← get
  let reply ← c.perform op
  let t ← get
  return ⟨op, m.control.state, reply, t.control.state, t.commands.drop m.commands.length⟩

/-- The operations, one after the other. -/
def history (c : Controller (σ × List Call)) : List Operation → Step (σ × List Call) (List Event)
  | [] => return []
  | op :: ops => return (← c.event op) :: (← c.history ops)

variable (c : Controller σ) {m : Managed (σ × List Call)}

/-- What the event of an operation is, if the operation leaves the server as it may. -/
theorem ends_event_of_leaves {op : Operation} {x : Step (σ × List Call) Outcome}
    (hop : c.recorded.perform op = do return .code (← x).code)
    (hm : m.control.state = .stopped ∨ m.control.state = .running)
    (hx : Ends x m (fun o t => ∃ commands state, Reached m commands state t ∧
      state ∈ op.leaves m.control.state o ∧ (op = .restart →
        commands = [c.args (if m.control.state = .running then .graceful else .start)]))
      (c.Late m.control)) :
    Ends (c.recorded.event op) m
      (fun e t => e.Coherent c.args ∧ e.operation = op ∧ e.before = m.control.state ∧
        Reached m e.commands e.after t) (c.Late m.control) := by
  unfold event
  rw [ends_bind, ends_get, hop, ends_bind, ends_bind]
  apply hx.imp
  rintro o t ⟨commands, state, hr, hl, hc⟩
  rw [ends_pure, ends_bind, ends_get, ends_pure, hr.commands, List.drop_left, hr.state]
  exact ⟨coherent_of_leaves hm hl hc, rfl, rfl, hr⟩

theorem ends_event_of_reached {op : Operation} {x : Step (σ × List Call) Outcome}
    {commands : List (List String)} {after : Outcome → ServerState}
    (hop : c.recorded.perform op = do return .code (← x).code)
    (hm : m.control.state = .stopped ∨ m.control.state = .running)
    (hl : ∀ o, op.leaves m.control.state o = [after o])
    (hc : op = .restart →
      commands = [c.args (if m.control.state = .running then .graceful else .start)])
    (hx : Ends x m (fun o t => Reached m commands (after o) t) (c.Late m.control)) :
    Ends (c.recorded.event op) m
      (fun e t => e.Coherent c.args ∧ e.operation = op ∧ e.before = m.control.state ∧
        Reached m e.commands e.after t) (c.Late m.control) := by
  apply ends_event_of_leaves c hop hm
  apply hx.imp
  intro o t ht
  refine ⟨commands, after o, ht, ?_, hc⟩
  rw [hl o]
  exact List.mem_singleton_self _

/-- The event of an operation on a settled server is coherent. -/
theorem ends_event (op : Operation) (hm : m.control.state = .stopped ∨ m.control.state = .running) :
    Ends (c.recorded.event op) m
      (fun e t => e.Coherent c.args ∧ e.operation = op ∧ e.before = m.control.state ∧
        Reached m e.commands e.after t) (c.Late m.control) := by
  cases op with
  | start => exact ends_event_of_reached c rfl hm (fun _ => rfl) nofun (ends_start c m)
  | stop => exact ends_event_of_reached c rfl hm (fun _ => rfl) nofun (ends_stop c m)
  | gracefulStop =>
    exact ends_event_of_reached c rfl hm (fun _ => rfl) nofun (ends_gracefulStop c m)
  | reload => exact ends_event_of_reached c rfl hm (fun _ => rfl) nofun (ends_reload c m)
  | restart =>
    exact ends_event_of_reached c rfl hm (fun _ => rfl) (fun _ => rfl) (ends_restart c m hm)
  | hardRestart =>
    apply ends_event_of_leaves c rfl hm
    apply (ends_hardRestart c m).imp
    rintro o t ⟨commands, state, hr, hl⟩
    exact ⟨commands, state, hr, hl, nofun⟩
  | expectFailure =>
    apply ends_event_of_leaves c rfl hm
    apply (ends_expectFailure c m).imp
    rintro o t ⟨commands, state, hr, hl⟩
    exact ⟨commands, state, hr, hl, nofun⟩
  | observe =>
    unfold event
    rw [ends_bind, ends_get, ends_bind]
    unfold perform
    rw [ends_bind]
    apply (ends_observe c m).imp
    rintro state t ⟨hs, hr⟩
    rw [ends_pure, ends_bind, ends_get, ends_pure, hr.commands, List.drop_left, hr.state]
    refine ⟨?_, rfl, rfl, hr⟩
    constructor <;> simp [hs]

/-- A settled server stays settled, so that each operation finds it so. -/
theorem ends_history_of_settled (ops : List Operation)
    (hm : m.control.state = .stopped ∨ m.control.state = .running) :
    Ends (c.recorded.history ops) m
      (fun events t => events.map (·.operation) = ops ∧
        m.control.state :: events.map (·.after) = events.map (·.before) ++ [t.control.state] ∧
        ∀ e ∈ events, e.Coherent c.args) (c.Late m.control) := by
  induction ops generalizing m with
  | nil =>
    unfold history
    rw [ends_pure]
    exact ⟨rfl, rfl, nofun⟩
  | cons op ops ih =>
    unfold history
    apply (ends_event c op hm).bind
    rintro e t ⟨he, hop, hbefore, hr⟩
    have ht : t.control.state = .stopped ∨ t.control.state = .running := hr.state ▸ he.settled
    rw [ends_bind]
    apply (ends_of_reached hr (ih ht)).imp
    rintro events u ⟨hops, hstates, hall⟩
    rw [ends_pure]
    refine ⟨?_, ?_, ?_⟩
    · rw [List.map_cons, hop, hops]
    · rw [List.map_cons, List.map_cons, ← hr.state, hstates, hbefore, List.cons_append]
    · rintro f (_ | ⟨_, hf⟩)
      · exact he
      · exact hall f hf

/-- The events of a run on a new control are those of the operations in their order. Each finds the
server in the state in which the one before left it, and is coherent. Only the clock ends a run
before that. -/
theorem ends_history (timeout interval : Duration) (s : Session (σ × List Call))
    (ops : List Operation) :
    Ends (c.recorded.history ops) ⟨{ timeout := timeout, interval := interval }, s⟩
      (fun events t => events.map (·.operation) = ops ∧
        .stopped :: events.map (·.after) = events.map (·.before) ++ [t.control.state] ∧
        ∀ e ∈ events, e.Coherent c.args)
      (fun _ t => c.Timely →
        Action.clockLimit ≤ t.session.clock.nanos + (timeout.max interval).nanos) :=
  ends_history_of_settled c ops (.inl rfl)

end Controller

end WebTestbed
