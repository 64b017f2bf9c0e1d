import WebTestbed.Proofs.Control.Lifecycle
import WebTestbed.Proofs.Probe.Curl

/-! Without a record, operations do the same. -/
namespace WebTestbed

open Control

variable {ε S T σ τ α β : Type}

/-- The steps do the same, but that the second does not know of what `f` leaves out. -/
def Agrees (f : S → T) (x : ExceptT ε (StateM S) α) (y : ExceptT ε (StateM T) α) : Prop :=
  ∀ s, y.run.run (f s) = Prod.map id f (x.run.run s)

section Agrees

variable {f : S → T} {x x' : ExceptT ε (StateM S) α} {y y' : ExceptT ε (StateM T) α}

theorem agrees_pure (a : α) : Agrees f (pure a : ExceptT ε (StateM S) α) (pure a) := by
  intro _
  rfl

theorem agrees_throw (e : ε) : Agrees f (throw e : ExceptT ε (StateM S) α) (throw e) := by
  intro _
  rfl

theorem Agrees.ite {p : Prop} [Decidable p] (hx : Agrees f x y) (hx' : Agrees f x' y') :
    Agrees f (if p then x else x') (if p then y else y') := by
  by_cases h : p
  · rw [if_pos h, if_pos h]
    exact hx
  · rw [if_neg h, if_neg h]
    exact hx'

theorem Agrees.bind {g : α → ExceptT ε (StateM S) β} {h : α → ExceptT ε (StateM T) β}
    (hx : Agrees f x y) (hg : ∀ a, Agrees f (g a) (h a)) : Agrees f (x >>= g) (y >>= h) := by
  intro s
  rw [ExceptT.run_bind, StateT.run_bind, ExceptT.run_bind, StateT.run_bind, hx s]
  obtain ⟨e | a, t⟩ := x.run.run s
  · rfl
  · exact hg a t

theorem Agrees.run_bind {η : Type} {x : ExceptT η (ExceptT ε (StateM S)) α}
    {y : ExceptT η (ExceptT ε (StateM T)) α} {g : α → ExceptT η (ExceptT ε (StateM S)) β}
    {h : α → ExceptT η (ExceptT ε (StateM T)) β} (hx : Agrees f x.run y.run)
    (hg : ∀ a, Agrees f (g a).run (h a).run) : Agrees f (x >>= g).run (y >>= h).run := by
  rw [ExceptT.run_bind, ExceptT.run_bind]
  apply hx.bind
  intro r
  cases r with
  | ok a => exact hg a
  | error e => exact agrees_pure _

theorem Agrees.run_lift {η : Type} (hx : Agrees f x y) :
    Agrees f (liftM x : ExceptT η (ExceptT ε (StateM S)) α).run
      (liftM y : ExceptT η (ExceptT ε (StateM T)) α).run :=
  hx.bind fun _ => agrees_pure _

theorem agrees_run_forM {η : Type} {g : α → ExceptT η (ExceptT ε (StateM S)) Unit}
    {h : α → ExceptT η (ExceptT ε (StateM T)) Unit} (hg : ∀ a, Agrees f (g a).run (h a).run)
    (l : List α) : Agrees f (l.forM g).run (l.forM h).run := by
  induction l with
  | nil => exact agrees_pure _
  | cons a l ih => exact (hg a).run_bind fun _ => ih

end Agrees

/-- The session without what was added outside. -/
def Session.forget (s : Session (σ × τ)) : Session σ :=
  s.withOutside s.outside.1

section Action

theorem agrees_now : Agrees (Session.forget : Session (σ × τ) → _) Action.now Action.now := by
  intro _
  rfl

theorem agrees_deadline (d : Duration) : Agrees (Session.forget : Session (σ × τ) → _)
    (Action.deadline d) (Action.deadline d) := by
  unfold Action.deadline
  apply agrees_now.bind
  intro _
  exact (agrees_pure _).ite (agrees_throw _)

theorem agrees_beside (a : Action σ α) :
    Agrees (Session.forget : Session (σ × τ) → _) a.beside a := by
  intro _
  rfl

theorem Action.ends_beside_iff {a : Action σ α} {s : Session (σ × τ)}
    {post : α → Session (σ × τ) → Prop} {fault : Fault → Session (σ × τ) → Prop} :
    Ends a.beside s post fault ↔ Ends a s.forget
      (fun x t => post x (t.withOutside (t.outside, s.outside.2)))
      (fun e t => fault e (t.withOutside (t.outside, s.outside.2))) := by
  unfold beside
  rw [ends_mk]
  unfold Ends Session.forget
  obtain ⟨_ | _, _⟩ := a.run.run (s.withOutside s.outside.1)
  · rfl
  · rfl

theorem agrees_recorded (run : Runner σ) (i : Invocation) :
    Agrees Session.forget (run.recorded i) (run i) := by
  have h : Agrees Session.forget (run.recorded i) (run i >>= pure) := by
    apply (agrees_beside (run i)).bind
    intro _ _
    rfl
  rw [bind_pure] at h
  exact h

namespace Action

theorem agrees_tell (level : Level) (source text : String) :
    Agrees (Session.forget : Session (σ × τ) → _) (tell level source text)
      (tell level source text) := by
  intro _
  rfl

theorem agrees_readFiles (f : FileTree → α) :
    Agrees (Session.forget : Session (σ × τ) → _) (readFiles f) (readFiles f) := by
  intro _
  rfl

theorem run_changeFiles (f : FileTree → Except FileError FileTree) (s : Session σ) :
    (changeFiles f : Action σ _).run.run s = match f s.files with
      | .ok t => (.ok (.ok ()), { s with files := t })
      | .error e => (.ok (.error e), s) := by
  have h : (changeFiles f : Action σ _).run.run s =
      (match f s.files with
        | .ok t => do
          set { s with files := t }
          return .ok ()
        | .error e => return .error e : Action σ (Except FileError Unit)).run.run s := rfl
  rw [h]
  cases f s.files with
  | ok t => rfl
  | error e => rfl

theorem agrees_changeFiles (f : FileTree → Except FileError FileTree) :
    Agrees (Session.forget : Session (σ × τ) → _) (changeFiles f) (changeFiles f) := by
  intro s
  have hs : s.forget.files = s.files := rfl
  rw [run_changeFiles, run_changeFiles, hs]
  cases f s.files with
  | ok t => rfl
  | error e => rfl

end Action

section Curl

variable (e : Environment) (run : Runner σ)

theorem agrees_request (o : CurlOptions) (urls : List String) :
    Agrees Session.forget (Curl.request e run.recorded o urls).run
      (Curl.request e run o urls).run := by
  unfold Curl.request
  apply Agrees.run_bind (agrees_pure _)
  intro args
  apply Agrees.run_bind ((Action.agrees_changeFiles _).bind fun _ => agrees_pure _)
  intro _
  apply Agrees.run_bind (agrees_recorded run _).run_lift
  intro r
  by_cases h : r.succeeded
  · rw [if_pos h, if_pos h]
    apply Agrees.run_bind ((Action.agrees_readFiles _).bind fun _ => agrees_pure _)
    intro stream
    apply Agrees.run_bind (agrees_run_forM (fun _ => (Action.agrees_tell _ _ _).run_lift) _)
    intro _
    apply Agrees.run_bind (agrees_pure _)
    intro _
    exact agrees_pure _
  · rw [if_neg h, if_neg h]
    exact (Action.agrees_tell _ _ _).run_lift.run_bind fun _ => agrees_pure _

theorem agrees_attempt (url : String) (d : Duration) :
    Agrees Session.forget (Curl.attempt e run.recorded url d) (Curl.attempt e run url d) := by
  unfold Curl.attempt
  apply (agrees_request e run _ _).bind
  intro r
  cases r with
  | ok r => exact agrees_pure _
  | error err => exact (Action.agrees_tell _ _ _).bind fun _ => agrees_pure _

end Curl

section Poll

variable {interval timeout deadline : Duration} {attempt : Duration → Action (σ × τ) Bool}
  {attempt' : Duration → Action σ Bool}
  (h : ∀ d, Agrees Session.forget (attempt d) (attempt' d))
include h

theorem pollUntil_forget (s : Session (σ × τ)) :
    Probe.pollUntil interval deadline attempt' s.forget =
      Prod.map id Session.forget (Probe.pollUntil interval deadline attempt s) := by
  have hfailed : ∀ {s t : Session (σ × τ)} {d}, (attempt d).run.run s = (.ok false, t) →
      (attempt' d).run.run s.forget = (.ok false, t.forget) := by
    intro s t d hr
    rw [h d s, hr]
    rfl
  fun_induction Probe.pollUntil interval deadline attempt s with
  | case1 s hlt left t hr ht ih =>
    rw [← ih]
    exact Probe.pollUntil_again (s := s.forget) (t := t.forget) hlt (hfailed hr) ht
  | case2 s hlt left t hr ht =>
    exact Probe.pollUntil_late (s := s.forget) hlt (hfailed hr) ht
  | case3 s hlt left hr =>
    apply Probe.pollUntil_answered (s := s.forget) hlt (h _ s)
    intro t ht
    exact hr _ (Prod.ext (congrArg Prod.fst ht :) rfl)
  | case4 s hlt => exact Probe.pollUntil_over (s := s.forget) hlt

theorem agrees_poll : Agrees Session.forget (Probe.poll interval timeout attempt)
    (Probe.poll interval timeout attempt') := by
  unfold Probe.poll
  apply (agrees_deadline timeout).bind
  intro _ s
  exact pollUntil_forget h s

end Poll

end Action

namespace Control

def Managed.forget (m : Managed (σ × τ)) : Managed σ :=
  ⟨m.control, m.session.forget⟩

theorem agrees_lift {a : Action (σ × τ) α} {b : Action σ α} (h : Agrees Session.forget a b) :
    Agrees Managed.forget (lift a) (lift b) := by
  intro m
  have hb : (lift b).run.run m.forget =
      Prod.map id (fun s => ⟨m.control, s⟩) (b.run.run m.session.forget) := rfl
  rw [hb, h m.session]
  rfl

theorem agrees_current : Agrees (Managed.forget : Managed (σ × τ) → _) current current := by
  intro _
  rfl

theorem agrees_update (f : Control → Control) :
    Agrees (Managed.forget : Managed (σ × τ) → _) (update f) (update f) := by
  intro _
  rfl

theorem agrees_tell (level : Level) (text : String) :
    Agrees (Managed.forget : Managed (σ × τ) → _) (tell level text) (tell level text) := by
  apply agrees_lift
  intro _
  rfl

end Control

namespace Controller

/-- The controllers do the same, but that the second does not know of what was added outside. -/
structure Matches (c : Controller (σ × τ)) (c' : Controller σ) : Prop where
  env : c.env = c'.env
  run : ∀ i, Agrees Session.forget (c.run i) (c'.run i)
  answers : ∀ url d, Agrees Session.forget (c.probe.answers url d) (c'.probe.answers url d)
  refuses : ∀ url d, Agrees Session.forget (c.probe.refuses url d) (c'.probe.refuses url d)

theorem matches_recorded (c : Controller σ) : c.recorded.Matches c := by
  constructor
  case env => rfl
  case run => exact agrees_recorded c.run
  case answers => exact fun _ _ => agrees_beside _
  case refuses => exact fun _ _ => agrees_beside _

section Matches

variable {c : Controller (σ × τ)} {c' : Controller σ} (h : c.Matches c')
include h

theorem agrees_give (cmd : ControlCommand) :
    Agrees Managed.forget (c.give cmd) (c'.give cmd) := by
  unfold give args
  rw [h.env]
  apply agrees_current.bind
  intro _
  apply (agrees_lift (h.run _)).bind
  intro _
  apply (agrees_update _).bind
  intro _
  exact ((agrees_tell _ _).bind fun _ => agrees_pure _).ite (agrees_pure _)

theorem agrees_isLive (url : String) (timeout : Duration) :
    Agrees Managed.forget (c.isLive url timeout) (c'.isLive url timeout) := by
  unfold isLive
  apply agrees_current.bind
  intro _
  apply (agrees_lift (agrees_poll (h.answers url))).bind
  intro _
  exact ((agrees_tell _ _).bind fun _ => agrees_pure _).ite (agrees_pure _)

theorem agrees_isDead (url : String) (timeout : Duration) :
    Agrees Managed.forget (c.isDead url timeout) (c'.isDead url timeout) := by
  unfold isDead
  apply agrees_current.bind
  intro _
  apply (agrees_lift (agrees_poll (h.refuses url))).bind
  intro _
  exact ((agrees_tell _ _).bind fun _ => agrees_pure _).ite (agrees_pure _)

theorem agrees_awaitLive : Agrees Managed.forget c.awaitLive c'.awaitLive := by
  unfold awaitLive
  rw [h.env]
  apply agrees_current.bind
  intro _
  apply (agrees_isLive h _ _).bind
  intro _
  apply Agrees.ite
  · exact (agrees_update _).bind fun _ => agrees_pure _
  · exact (agrees_update _).bind fun _ => agrees_pure _

theorem agrees_awaitDead : Agrees Managed.forget c.awaitDead c'.awaitDead := by
  unfold awaitDead
  rw [h.env]
  apply agrees_current.bind
  intro _
  apply (agrees_isDead h _ _).bind
  intro _
  apply Agrees.ite
  · exact (agrees_update _).bind fun _ => agrees_pure _
  · exact (agrees_update _).bind fun _ => agrees_pure _

theorem agrees_start : Agrees Managed.forget c.start c'.start := by
  unfold start
  apply (agrees_tell _ _).bind
  intro _
  apply (agrees_update _).bind
  intro _
  apply (agrees_give h _).bind
  intro _
  apply (agrees_awaitLive h).ite
  exact (agrees_update _).bind fun _ => agrees_pure _

theorem agrees_halt (cmd : ControlCommand) :
    Agrees Managed.forget (c.halt cmd) (c'.halt cmd) := by
  unfold halt
  apply agrees_current.bind
  intro _
  apply (agrees_update _).bind
  intro _
  apply (agrees_give h _).bind
  intro _
  apply (agrees_awaitDead h).ite
  exact (agrees_update _).bind fun _ => agrees_pure _

theorem agrees_stop : Agrees Managed.forget c.stop c'.stop :=
  (agrees_tell _ _).bind fun _ => agrees_halt h _

theorem agrees_gracefulStop : Agrees Managed.forget c.gracefulStop c'.gracefulStop :=
  (agrees_tell _ _).bind fun _ => agrees_halt h _

theorem agrees_reload : Agrees Managed.forget c.reload c'.reload := by
  unfold reload
  apply (agrees_tell _ _).bind
  intro _
  apply (agrees_give h _).bind
  intro _
  exact (agrees_awaitLive h).ite (agrees_pure _)

theorem agrees_restart : Agrees Managed.forget c.restart c'.restart := by
  unfold restart
  apply agrees_current.bind
  intro _
  exact (agrees_reload h).ite (agrees_start h)

theorem agrees_hardRestart : Agrees Managed.forget c.hardRestart c'.hardRestart := by
  unfold hardRestart
  apply (agrees_stop h).bind
  intro o
  cases o with
  | missed => exact agrees_pure _
  | done => exact agrees_start h
  | refused => exact agrees_start h

theorem agrees_expectFailure :
    Agrees Managed.forget c.expectFailure c'.expectFailure := by
  unfold expectFailure
  apply (agrees_tell _ _).bind
  intro _
  apply (agrees_give h _).bind
  intro _
  apply (agrees_give h _).bind
  intro _
  exact ((agrees_tell _ _).bind fun _ => agrees_awaitDead h).ite (agrees_awaitDead h)

theorem agrees_observe : Agrees Managed.forget c.observe c'.observe := by
  unfold observe
  rw [h.env]
  apply agrees_current.bind
  intro _
  apply (agrees_lift (h.answers _ _)).bind
  intro _
  exact (agrees_update _).bind fun _ => agrees_pure _

/-- What an operation does to a server does not depend on what was added outside. -/
theorem agrees_perform (op : Operation) :
    Agrees Managed.forget (c.perform op) (c'.perform op) := by
  cases op with
  | start => exact (agrees_start h).bind fun _ => agrees_pure _
  | stop => exact (agrees_stop h).bind fun _ => agrees_pure _
  | gracefulStop => exact (agrees_gracefulStop h).bind fun _ => agrees_pure _
  | reload => exact (agrees_reload h).bind fun _ => agrees_pure _
  | restart => exact (agrees_restart h).bind fun _ => agrees_pure _
  | hardRestart => exact (agrees_hardRestart h).bind fun _ => agrees_pure _
  | expectFailure => exact (agrees_expectFailure h).bind fun _ => agrees_pure _
  | observe => exact (agrees_observe h).bind fun _ => agrees_pure _

end Matches

variable (c : Controller σ)

theorem agrees_event (op : Operation) :
    Agrees Managed.forget (Event.reply <$> c.recorded.event op) (c.perform op) := by
  have h : Agrees Managed.forget (do let reply ← c.recorded.perform op; let _ ← get; return reply)
      (c.perform op >>= pure) := by
    apply (agrees_perform (matches_recorded c) op).bind
    intro _ _
    rfl
  unfold event
  intro m
  simp only [map_eq_pure_bind, bind_assoc, pure_bind, bind_pure] at h ⊢
  exact h m

/-- The replies in a history, and the server that it ends with, are those of the operations without
a record. -/
theorem agrees_history (ops : List Operation) :
    Agrees Managed.forget (List.map Event.reply <$> c.recorded.history ops)
      (ops.mapM c.perform) := by
  induction ops with
  | nil => exact agrees_pure _
  | cons op ops ih =>
    have h : Agrees Managed.forget
        (do
          let reply ← Event.reply <$> c.recorded.event op
          let replies ← List.map Event.reply <$> c.recorded.history ops
          return reply :: replies)
        (do return (← c.perform op) :: (← ops.mapM c.perform)) := by
      apply (agrees_event c op).bind
      intro _
      exact ih.bind fun _ => agrees_pure _
    rw [List.mapM_cons]
    unfold history
    simp only [map_eq_pure_bind, bind_assoc, pure_bind, List.map_cons] at h ⊢
    exact h

end Controller

end WebTestbed
