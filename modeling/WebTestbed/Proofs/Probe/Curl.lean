import WebTestbed.Proofs.Control.Record
import WebTestbed.Probe.Curl

/-! What requests leave in the record of commands. -/
namespace WebTestbed

section Bind

variable {ε η S α β : Type} {s : S} {f : α → ExceptT η (ExceptT ε (StateM S)) β}
  {post : Except η β → S → Prop} {fault : ε → S → Prop}

/-- A step that may fail for a reason of its own goes on only where it does not. -/
theorem Ends.run_bind {x : ExceptT η (ExceptT ε (StateM S)) α} {mid : Except η α → S → Prop}
    (hx : Ends x.run s mid fault) (ok : ∀ a t, mid (.ok a) t → Ends (f a).run t post fault)
    (error : ∀ e t, mid (.error e) t → post (.error e) t) : Ends (x >>= f).run s post fault := by
  rw [ExceptT.run_bind]
  apply hx.bind
  intro r t hr
  cases r with
  | ok a => exact ok a t hr
  | error e => exact error e t hr

theorem Ends.run_lift_bind {x : ExceptT ε (StateM S) α} {mid : α → S → Prop}
    (hx : Ends x s mid fault) (hf : ∀ a t, mid a t → Ends (f a).run t post fault) :
    Ends ((liftM x : ExceptT η (ExceptT ε (StateM S)) α) >>= f).run s post fault := by
  have h : ((liftM x : ExceptT η (ExceptT ε (StateM S)) α) >>= f).run =
      x >>= fun a => (f a).run := ExceptT.run_bind_lift x f
  rw [h]
  exact hx.bind hf

end Bind

variable {σ α β : Type}

namespace Action

/-- The step gives what fits, and leaves alone what is outside. -/
def Keeps (fits : α → Prop) (a : Action σ α) : Prop :=
  ∀ s, Ends a s (fun x t => fits x ∧ t.outside = s.outside) (fun _ _ => True)

/-- The step leaves alone what is outside. -/
abbrev Quiet (a : Action σ α) : Prop :=
  a.Keeps fun _ => True

section Keeps

variable {fits : β → Prop}

theorem keeps_pure {x : β} (h : fits x) : (pure x : Action σ β).Keeps fits := by
  intro _
  exact ⟨h, rfl⟩

theorem Quiet.bind {a : Action σ α} {f : α → Action σ β} (ha : a.Quiet)
    (hf : ∀ x, (f x).Keeps fits) : (a >>= f).Keeps fits := by
  intro s
  apply (ha s).bind
  intro x t ht
  apply (hf x t).imp
  intro _ u hu
  exact ⟨hu.1, hu.2.trans ht.2⟩

theorem quiet_tell (level : Level) (source text : String) :
    (tell level source text : Action σ Unit).Quiet := by
  intro _
  exact ⟨trivial, rfl⟩

theorem quiet_readFiles (f : FileTree → α) : (readFiles f : Action σ α).Quiet := by
  intro _
  exact ⟨trivial, rfl⟩

theorem quiet_changeFiles (f : FileTree → Except FileError FileTree) :
    (changeFiles f : Action σ _).Quiet := by
  intro s
  unfold changeFiles
  rw [ends_bind, ends_get]
  cases f s.files with
  | ok t => exact ⟨trivial, rfl⟩
  | error e => exact ⟨trivial, rfl⟩

end Keeps

end Action

section Attempt

variable {fits : Except ProbeError β → Prop}

theorem quiet_run_bind {x : Attempt σ α} {f : α → Attempt σ β} (hx : Action.Quiet x.run)
    (ok : ∀ a, Action.Keeps fits (f a).run) (error : ∀ e, fits (.error e)) :
    Action.Keeps fits (x >>= f).run := by
  rw [ExceptT.run_bind]
  apply hx.bind
  intro r
  cases r with
  | ok a => exact ok a
  | error e => exact Action.keeps_pure (error e)

theorem quiet_run_lift {a : Action σ α} (ha : a.Quiet) :
    Action.Quiet (liftM a : Attempt σ α).run :=
  ha.bind fun _ => Action.keeps_pure trivial

theorem quiet_run_lift_bind {a : Action σ α} {f : α → Attempt σ β} (ha : a.Quiet)
    (hf : ∀ x, Action.Keeps fits (f x).run) : Action.Keeps fits (liftM a >>= f).run := by
  have h : (liftM a >>= f).run = a >>= fun x => (f x).run := ExceptT.run_bind_lift a f
  rw [h]
  exact ha.bind hf

theorem quiet_run_forM {f : α → Attempt σ Unit} (hf : ∀ a, Action.Quiet (f a).run) (l : List α) :
    Action.Quiet (l.forM f).run := by
  induction l with
  | nil => exact Action.keeps_pure trivial
  | cons a l ih => exact quiet_run_bind (hf a) (fun _ => ih) (fun _ => trivial)

end Attempt

namespace Curl

/-- A result has the exit code of its command. There is none only where the command had succeeded.
-/
def HasCode (code : Int) : Except ProbeError Command.Result → Prop
  | .ok r => r.exitCode = code
  | .error _ => code = 0

/-- A request runs one command, unless it ends before that. -/
theorem ends_request (e : Environment) (run : Runner σ) (o : CurlOptions) (urls : List String)
    (s : Session (σ × List Call)) : Ends (request e run.recorded o urls).run s
      (fun r t => (t.outside.2 = s.outside.2 ∧ ∃ err, r = .error err) ∨
        ∃ args x, command e o urls = .ok args ∧ HasCode x.exitCode r ∧
          t.outside.2 = s.outside.2 ++ [⟨{ args := args, timeout := o.timeout }, x⟩])
      (fun _ _ => True) := by
  have hfiles : Action.Quiet (ExceptT.mk (do
      return (← Action.changeFiles (removeStale · e.headerFile)).mapError .file) :
        Attempt (σ × List Call) Unit).run :=
    (Action.quiet_changeFiles _).bind fun _ => Action.keeps_pure trivial
  have hread : Action.Quiet (ExceptT.mk (do
      return (← Action.readFiles (headerContent · e.headerFile)).mapError .file) :
        Attempt (σ × List Call) Bytes).run :=
    (Action.quiet_readFiles _).bind fun _ => Action.keeps_pure trivial
  unfold request
  cases hc : command e o urls with
  | error err => exact .inl ⟨rfl, err, rfl⟩
  | ok args =>
    have hargs : Ends (ExceptT.mk (return .ok args) : Attempt (σ × List Call) (List String)).run s
        (fun r t => r = .ok args ∧ t = s) (fun _ _ => True) := And.intro rfl rfl
    apply hargs.run_bind
    case error => simp
    rintro _ _ ⟨h, rfl⟩
    cases h
    apply (hfiles _).run_bind
    case error =>
      rintro err t ⟨-, ht⟩
      exact .inl ⟨congrArg Prod.snd ht, err, rfl⟩
    rintro _ u ⟨-, hu⟩
    apply Ends.run_lift_bind (Runner.ends_recorded.mono (fun _ _ h => h) (fun _ _ _ => trivial))
    intro x v hv
    rw [hu] at hv
    refine Ends.imp ?_ fun r w (h : HasCode x.exitCode r ∧ w.outside = v.outside) =>
      .inr ⟨args, x, rfl, h.1, h.2 ▸ hv⟩
    by_cases h : x.succeeded
    · have hcode : x.exitCode = 0 := by simpa [Command.Result.succeeded] using h
      rw [if_pos h, hcode]
      apply quiet_run_bind hread _ (fun _ => rfl)
      intro stream
      apply quiet_run_bind _ _ (fun _ => rfl)
      · exact quiet_run_forM (fun _ => quiet_run_lift (Action.quiet_tell _ _ _)) _
      intro _
      cases Http.readChain stream x.output with
      | error err => exact Action.keeps_pure rfl
      | ok chain => exact Action.keeps_pure hcode
    · have hx : HasCode x.exitCode (.ok x) := rfl
      rw [if_neg h]
      exact quiet_run_lift_bind (Action.quiet_tell _ _ _) (fun _ => Action.keeps_pure hx) v

/-- The exit codes that count for a server that is not there. -/
theorem showsRefusal_iff (code : Int) : showsRefusal code = true ↔
    code ≠ 0 ∧ code ≠ Command.exitTimeout ∧ code ≠ exitTooLate := by
  simp [showsRefusal, and_assoc]

end Curl

/-- The command is an attempt of curl to reach the server at the URL. -/
def Call.Reaches (e : Environment) (url : String) (call : Call) : Prop :=
  ∃ d args, Curl.command e { timeout := some d, insecure := true } [url] = .ok args ∧
    call.invocation = { args := args, timeout := some d }

/-- The calls are attempts to reach the server, and it counts as dead exactly if one of them showed
a refusal. -/
structure Verdict (e : Environment) (url : String) (attempts : List Call) (dead : Bool) : Prop where
  reaches : ∀ call ∈ attempts, call.Reaches e url
  dead : dead = true ↔ ∃ call ∈ attempts, Curl.showsRefusal call.result.exitCode = true

namespace Verdict

variable {e : Environment} {url : String} {before after : List Call} {dead : Bool}

theorem nil : Verdict e url [] false := by
  constructor
  case reaches => exact nofun
  case dead => simp

theorem single {call : Call} (h : call.Reaches e url) :
    Verdict e url [call] (Curl.showsRefusal call.result.exitCode) := by
  constructor
  case reaches => simpa using h
  case dead => simp

/-- Attempts that showed nothing leave the verdict to those after them. -/
theorem append (h : Verdict e url before false) (h' : Verdict e url after dead) :
    Verdict e url (before ++ after) dead := by
  constructor
  case reaches =>
    intro call hc
    exact (List.mem_append.mp hc).elim (h.reaches call) (h'.reaches call)
  case dead =>
    have hnone : ¬ ∃ call ∈ before, Curl.showsRefusal call.result.exitCode = true := by
      rw [← h.dead]
      exact Bool.false_ne_true
    rw [h'.dead]
    constructor
    · rintro ⟨call, hc, hr⟩
      exact ⟨call, List.mem_append_right _ hc, hr⟩
    · rintro ⟨call, hc, hr⟩
      exact (List.mem_append.mp hc).elim (fun hb => absurd ⟨call, hb, hr⟩ hnone)
        (fun ha => ⟨call, ha, hr⟩)

end Verdict

/-- From `s` on, the record goes on with attempts that give the verdict. -/
def Judged (e : Environment) (url : String) (s : Session (σ × List Call)) (dead : Bool)
    (t : Session (σ × List Call)) : Prop :=
  ∃ attempts, t.outside.2 = s.outside.2 ++ attempts ∧ Verdict e url attempts dead

theorem Judged.trans {e : Environment} {url : String} {s t u : Session (σ × List Call)}
    {dead : Bool} (h : Judged e url s false t) (h' : Judged e url t dead u) :
    Judged e url s dead u := by
  obtain ⟨before, ht, hb⟩ := h
  obtain ⟨after, hu, ha⟩ := h'
  exact ⟨before ++ after, by rw [hu, ht, List.append_assoc], hb.append ha⟩

namespace Curl

variable (e : Environment) (run : Runner σ) (url : String) (s : Session (σ × List Call))

theorem ends_refuses (d : Duration) :
    Ends ((probe e run.recorded).refuses url d) s (Judged e url s) (fun _ _ => True) := by
  have hattempt : Ends (attempt e run.recorded url d) s
      (fun r t => Judged e url s (r.any (showsRefusal ·.exitCode)) t) (fun _ _ => True) := by
    unfold attempt
    apply (ends_request e run _ [url] s).bind
    rintro r t (⟨ht, err, rfl⟩ | ⟨args, x, hc, hr, ht⟩)
    · rw [ends_bind, Action.ends_tell, ends_pure]
      exact ⟨[], by simpa using ht, .nil⟩
    · have hcall : Call.Reaches e url ⟨{ args := args, timeout := some d }, x⟩ := ⟨d, args, hc, rfl⟩
      have hv := Verdict.single hcall
      cases r with
      | ok y =>
        have hcode : y.exitCode = x.exitCode := hr
        rw [ends_pure, Option.any_some, hcode]
        exact ⟨_, ht, hv⟩
      | error err =>
        have hcode : x.exitCode = 0 := hr
        rw [ends_bind, Action.ends_tell, ends_pure]
        rw [hcode] at hv
        exact ⟨_, ht, hv⟩
  apply hattempt.bind
  intro r t ht
  exact ht

/-- Asking until the time is over gives a verdict on the attempts that were made. -/
theorem ends_poll_refuses (interval timeout : Duration) :
    Ends (Probe.poll interval timeout ((probe e run.recorded).refuses url)) s (Judged e url s)
      (fun _ _ => True) := by
  have hattempt : ∀ d (t : Session (σ × List Call)), Judged e url s false t →
      d.nanos ≤ timeout.nanos →
      Ends ((probe e run.recorded).refuses url d) t (Judged e url s) (fun _ _ => True) := by
    intro d t ht _
    exact (ends_refuses e run url t d).imp fun _ _ hu => ht.trans hu
  have hs : Judged e url s false s := ⟨[], by simp, .nil⟩
  exact (Probe.ends_poll timeout (fun _ _ h => h) hattempt hs).mono (fun _ _ h => h)
    (fun _ _ _ => trivial)

end Curl

end WebTestbed
