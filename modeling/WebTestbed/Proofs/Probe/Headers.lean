import WebTestbed.Proofs.Command.Run
import WebTestbed.Proofs.Control.Forget
import WebTestbed.Proofs.Files.Path
import WebTestbed.Proofs.Files.Removal

/-! Requests and the file that headers are handed over in: what it held before has no part in a
request, and what the command leaves in it becomes the response. -/
namespace WebTestbed

variable {σ : Type}

theorem Environment.endsInSlash_headerFile (e : Environment) :
    e.headerFile.endsInSlash = false := by
  have hslash : (Path.mk "curl.headers").endsInSlash = false := by decide +kernel
  exact (Path.endsInSlash_join e.genDir (by decide)).trans hslash

section Plain

theorem ends_self {ε S α : Type} (x : ExceptT ε (StateM S) α) (s : S) :
    Ends x s (fun a t => x.run.run s = (.ok a, t)) (fun e t => x.run.run s = (.error e, t)) := by
  unfold Ends
  obtain ⟨_ | _, _⟩ := x.run.run s
  · rfl
  · rfl

/-- The results of commands carry no response of their own. -/
def Runner.Plain (run : Runner σ) : Prop :=
  ∀ i s, Ends (run i) s (fun r _ => r.response = none) (fun _ _ => True)

/-- Commands that are run give no response. -/
theorem Command.plain_run (start : Starter σ) : (run start).Plain := by
  intro i s
  apply (ends_run start i s).mono
  · exact fun _ _ h => h.1.response_eq
  · exact fun _ _ _ => trivial

end Plain

/-- The sessions differ at most in the file that a path names. -/
def Session.SameBut (p : Path) (s t : Session σ) : Prop :=
  ∃ files, t = { s with files := files } ∧ FileTree.SameBut p s.files files

namespace Session.SameBut

variable {p : Path} {s t u : Session σ}

theorem refl (p : Path) (s : Session σ) : s.SameBut p s :=
  ⟨s.files, rfl, .refl p s.files⟩

theorem symm (h : s.SameBut p t) : t.SameBut p s := by
  obtain ⟨files, rfl, h⟩ := h
  exact ⟨s.files, rfl, h.symm⟩

theorem trans (h : s.SameBut p t) (h' : t.SameBut p u) : s.SameBut p u := by
  obtain ⟨_, rfl, h⟩ := h
  obtain ⟨files, rfl, h'⟩ := h'
  exact ⟨files, rfl, h.trans h'⟩

end Session.SameBut

namespace Curl

/-- What a request comes to, from how its command ended and what is in the header file then. -/
def answer (r : Command.Result) (left : Except FileError Bytes) :
    Except ProbeError Command.Result :=
  if r.exitCode = 0 then
    match left with
    | .ok stream => ((Http.readChain stream r.output).mapError .headers).map r.withResponse
    | .error .notFound => .ok (r.withResponse none)
    | .error err => .error (.file err)
  else .ok r

section Request

variable (e : Environment) (run : Runner σ) (o : CurlOptions) (urls : List String) (s : Session σ)

/-- How a request ends that is made in a session. Its command is run where there is no header file
any more, and besides the command only the journal changes anything. -/
inductive Answered : Except ProbeError Command.Result → Session σ → Prop where
  | refused {err : ProbeError} (hc : command e o urls = .error err) : Answered (.error err) s
  | blocked {args : List String} {err : FileError} (hc : command e o urls = .ok args)
      (hfile : s.files.removeFile e.headerFile = .error err) (herr : err ≠ .notFound) :
      Answered (.error (.file err)) s
  | replied {args : List String} {r : Command.Result} {t : Session σ}
      (hc : command e o urls = .ok args)
      (hgone : (s.files.without e.headerFile).contains e.headerFile = false)
      (hrun : (run { args := args, timeout := o.timeout }).run.run
        { s with files := s.files.without e.headerFile } = (.ok r, t)) (journal : List Entry) :
      Answered (answer r (t.files.read e.headerFile)) { t with journal := journal }

/-- The command of a request ends the whole run. -/
def Halted (fault : Fault) (t : Session σ) : Prop :=
  ∃ args, command e o urls = .ok args ∧ (run { args := args, timeout := o.timeout }).run.run
    { s with files := s.files.without e.headerFile } = (.error fault, t)

end Request

/-- What a request does after its command. -/
def reply (e : Environment) (r : Command.Result) : Attempt σ Command.Result := do
  if r.succeeded then
    let stream ← ExceptT.mk
      (return (← Action.readFiles (headerContent · e.headerFile)).mapError .file)
    (Http.streamLinesRead stream).forM fun l =>
      Action.tell (σ := σ) .trace readerSource (lineNotice l)
    let chain ← ExceptT.mk (return (Http.readChain stream r.output).mapError .headers)
    return r.withResponse chain
  else
    Action.tell (σ := σ) .debug source ("curl exited with " ++ toString r.exitCode)
    return r

section Run

variable {e : Environment} {run : Runner σ} {o : CurlOptions} {urls : List String}

theorem run_request_of_error {err : ProbeError} (hc : command e o urls = .error err)
    (s : Session σ) : (request e run o urls).run.run.run s = (.ok (.error err), s) := by
  unfold request
  rw [hc]
  rfl

theorem run_request_of_ok {args : List String} (hc : command e o urls = .ok args) (s : Session σ) :
    (request e run o urls).run.run.run s = match removeStale s.files e.headerFile with
      | .error err => (.ok (.error (.file err)), s)
      | .ok files => (do
          let r ← run { args := args, timeout := o.timeout }
          (reply e r).run : Action σ (Except ProbeError Command.Result)).run.run
            { s with files := files } := by
  have h : (request e run o urls).run = (do
      match ← Action.changeFiles (removeStale · e.headerFile) with
      | .error err => return .error (.file err)
      | .ok () =>
        let r ← run { args := args, timeout := o.timeout }
        (reply e r).run : Action σ (Except ProbeError Command.Result)) := by
    have hlift : ∀ a : Action σ Command.Result, (liftM a >>= reply e).run =
        a >>= fun r => (reply e r).run := fun a => ExceptT.run_bind_lift a (reply e)
    unfold request
    rw [hc]
    change (ExceptT.mk (do
        return (← Action.changeFiles (removeStale · e.headerFile)).mapError .file) >>= fun _ =>
          liftM (run { args := args, timeout := o.timeout }) >>= reply e).run = _
    rw [ExceptT.run_bind, ExceptT.run_mk, bind_assoc]
    apply bind_congr
    intro r
    rw [pure_bind]
    cases r with
    | ok _ => exact hlift _
    | error err => rfl
  rw [h, ExceptT.run_bind, StateT.run_bind, Action.run_changeFiles]
  cases removeStale s.files e.headerFile with
  | ok files => rfl
  | error err => rfl

end Run

section RemoveStale

variable {t u : FileTree} {p : Path}

theorem removeStale_eq_error {err : FileError} (h : removeStale t p = .error err) :
    t.removeFile p = .error err ∧ err ≠ .notFound := by
  unfold removeStale at h
  split at h
  · cases h
  · next hne =>
    refine ⟨h, ?_⟩
    rintro rfl
    exact hne h

theorem removeStale_eq_ok (hslash : p.endsInSlash = false) (h : removeStale t p = .ok u) :
    u = t.without p ∧ u.contains p = false := by
  have hu : t.removeFile p = .ok u ∨ t.removeFile p = .error .notFound ∧ u = t := by
    unfold removeStale at h
    split at h
    · next hn =>
      cases h
      exact .inr ⟨hn, rfl⟩
    · exact .inl h
  obtain ⟨hdir, rfl⟩ := FileTree.eq_without_of_removeFile hslash hu
  exact ⟨rfl, FileTree.contains_without hdir⟩

theorem removeStale_of_locate {l : Location} (hslash : p.endsInSlash = false)
    (hl : t.locate p = .ok l) (h : t.isDirectory p = false) :
    removeStale t p = .ok (t.without p) := by
  obtain hr | ⟨hr, hw⟩ := FileTree.removeFile_of_locate hslash hl h
  · simp only [removeStale, hr]
  · simp only [removeStale, hr, hw]

end RemoveStale

section Reply

/-- The sessions differ at most in their journals. -/
def Told (s t : Session σ) : Prop :=
  ∃ journal, t = { s with journal := journal }

theorem Told.refl (s : Session σ) : Told s s :=
  ⟨s.journal, rfl⟩

theorem Told.trans {s t u : Session σ} (h : Told s t) (h' : Told t u) : Told s u := by
  obtain ⟨_, rfl⟩ := h
  obtain ⟨journal, rfl⟩ := h'
  exact ⟨journal, rfl⟩

theorem ends_tell_lift (level : Level) (source text : String) (s : Session σ) :
    Ends (liftM (Action.tell (σ := σ) level source text) : Attempt σ Unit).run s
      (fun r t => r = .ok () ∧ Told s t) (fun _ _ => False) :=
  ⟨rfl, _, rfl⟩

theorem ends_forM_tell {α : Type} (level : Level) (source : String) (text : α → String)
    (l : List α) (s : Session σ) :
    Ends (l.forM fun a => (liftM (Action.tell (σ := σ) level source (text a)) : Attempt σ Unit)).run
      s (fun r t => r = .ok () ∧ Told s t) (fun _ _ => False) := by
  induction l generalizing s with
  | nil => exact ⟨rfl, .refl s⟩
  | cons a l ih =>
    apply (ends_tell_lift level source (text a) s).run_bind
    case error =>
      rintro _ _ ⟨h, -⟩
      cases h
    rintro _ t ⟨-, ht⟩
    apply (ih t).imp
    rintro r u ⟨hr, hu⟩
    exact ⟨hr, ht.trans hu⟩

theorem answer_of_headerContent_ok {r : Command.Result} {t : FileTree} {p : Path} {stream : Bytes}
    (hr : r.exitCode = 0) (h : headerContent t p = .ok stream) : answer r (t.read p) =
      ((Http.readChain stream r.output).mapError .headers).map r.withResponse := by
  unfold headerContent at h
  unfold answer
  rw [if_pos hr]
  split at h
  · next hread =>
    cases h
    rw [hread]
    rfl
  · rw [h]

theorem answer_of_headerContent_error {r : Command.Result} {t : FileTree} {p : Path}
    {err : FileError} (hr : r.exitCode = 0) (h : headerContent t p = .error err) :
    answer r (t.read p) = .error (.file err) := by
  unfold headerContent at h
  unfold answer
  rw [if_pos hr]
  split at h
  · cases h
  · next hne =>
    rw [h]
    cases err with
    | notFound => exact absurd h hne
    | _ => rfl

theorem ends_reply (e : Environment) (r : Command.Result) (s : Session σ) :
    Ends (reply e r).run s (fun x t => x = answer r (s.files.read e.headerFile) ∧ Told s t)
      (fun _ _ => False) := by
  unfold reply
  by_cases hr : r.exitCode = 0
  · rw [if_pos (by simpa [Command.Result.succeeded] using hr)]
    have hread : Ends (ExceptT.mk (do
        return (← Action.readFiles (headerContent · e.headerFile)).mapError .file) :
          Attempt σ Bytes).run s
        (fun x t => x = (headerContent s.files e.headerFile).mapError .file ∧ t = s)
        (fun _ _ => False) := And.intro rfl rfl
    apply hread.run_bind
    case error =>
      rintro err t ⟨hx, rfl⟩
      cases h : headerContent t.files e.headerFile with
      | ok stream =>
        rw [h] at hx
        cases hx
      | error err =>
        rw [h] at hx
        cases hx
        exact ⟨(answer_of_headerContent_error hr h).symm, .refl t⟩
    rintro stream t ⟨hx, rfl⟩
    have h : headerContent t.files e.headerFile = .ok stream := by
      cases h : headerContent t.files e.headerFile with
      | ok stream' =>
        rw [h] at hx
        cases hx
        rfl
      | error err =>
        rw [h] at hx
        cases hx
    rw [answer_of_headerContent_ok hr h]
    apply (ends_forM_tell .trace readerSource lineNotice (Http.streamLinesRead stream) t).run_bind
    case error =>
      rintro _ _ ⟨h, -⟩
      cases h
    rintro _ u ⟨-, hu⟩
    cases Http.readChain stream r.output with
    | ok chain => exact And.intro rfl hu
    | error err => exact And.intro rfl hu
  · have hanswer : answer r (s.files.read e.headerFile) = .ok r := if_neg hr
    rw [if_neg (by simpa [Command.Result.succeeded] using hr), hanswer]
    apply (ends_tell_lift .debug source _ s).run_bind
    case error =>
      rintro _ _ ⟨h, -⟩
      cases h
    rintro _ t ⟨-, ht⟩
    exact ⟨rfl, ht⟩

end Reply

section Forget

theorem ends_request_answered (e : Environment) (run : Runner σ) (o : CurlOptions)
    (urls : List String) (s : Session σ) : Ends (request e run o urls).run s
      (Answered e run o urls s) (Halted e run o urls s) := by
  unfold Ends
  cases hc : command e o urls with
  | error err =>
    rw [run_request_of_error hc]
    exact .refused hc
  | ok args =>
    rw [run_request_of_ok hc]
    cases hfile : removeStale s.files e.headerFile with
    | error err =>
      obtain ⟨hr, herr⟩ := removeStale_eq_error hfile
      exact .blocked hc hr herr
    | ok files =>
      obtain ⟨rfl, hgone⟩ := removeStale_eq_ok e.endsInSlash_headerFile hfile
      have hrun := ends_self (run { args := args, timeout := o.timeout })
        { s with files := s.files.without e.headerFile }
      apply (hrun.mono (fun _ _ h => h) fun fault t h => (⟨args, hc, h⟩ : Halted ..)).bind
      intro r t hr
      apply (ends_reply e r t).mono
      · rintro x u ⟨rfl, journal, rfl⟩
        exact .replied hc hgone hr journal
      · exact fun _ _ h => h.elim

theorem request_eq_of_sameBut {e : Environment} {run : Runner σ} {o : CurlOptions}
    {urls args : List String} (hc : command e o urls = .ok args) {s t : Session σ}
    (h : s.SameBut e.headerFile t) :
    (request e run o urls).run.run.run t = (request e run o urls).run.run.run s := by
  obtain ⟨files, rfl, h⟩ := h
  obtain rfl | ⟨hs, ht, hw, l, hl, hl'⟩ := h.locate_or_eq
  · rfl
  · have hslash := e.endsInSlash_headerFile
    rw [run_request_of_ok hc, run_request_of_ok hc, removeStale_of_locate hslash hl hs,
      removeStale_of_locate hslash hl' ht, hw]

/-- A request that was made, and what it came to. -/
structure Exchange where
  options : CurlOptions
  urls : List String
  outcome : Except Fault (Except ProbeError Command.Result)

/-- Requests one after another. Before each of them anything may happen to the header file. -/
inductive Requested (e : Environment) (run : Runner σ) :
    Session σ → List Exchange → Session σ → Prop where
  | nil (s : Session σ) : Requested e run s [] s
  | cons {s t u v : Session σ} {x : Exchange} {l : List Exchange}
      (ht : s.SameBut e.headerFile t)
      (hx : (request e run x.options x.urls).run.run.run t = (x.outcome, u))
      (hl : Requested e run u l v) : Requested e run s (x :: l) v

theorem Requested.unique {e : Environment} {run : Runner σ} {s s' v v' : Session σ}
    {l l' : List Exchange} (h : Requested e run s l v) (h' : Requested e run s' l' v')
    (hs : s.SameBut e.headerFile s')
    (hl : l.map (fun x => (x.options, x.urls)) = l'.map fun x => (x.options, x.urls)) :
    l = l' ∧ v.SameBut e.headerFile v' := by
  induction h generalizing s' l' with
  | nil s =>
    cases h' with
    | nil => exact ⟨rfl, hs⟩
    | cons => cases hl
  | @cons s t u v x l ht hx hrest ih =>
    cases h' with
    | nil => cases hl
    | @cons _ t' u' _ x' l' ht' hx' hrest' =>
      obtain ⟨o, urls, r⟩ := x
      obtain ⟨o', urls', r'⟩ := x'
      rw [List.map_cons, List.map_cons, List.cons.injEq, Prod.mk.injEq] at hl
      obtain ⟨⟨rfl, rfl⟩, hl⟩ := hl
      have hboth : t.SameBut e.headerFile t' := ht.symm.trans (hs.trans ht')
      have hstep : r = r' ∧ u.SameBut e.headerFile u' := by
        cases hc : command e o urls with
        | error err =>
          rw [run_request_of_error hc] at hx hx'
          cases hx
          cases hx'
          exact ⟨rfl, hboth⟩
        | ok args =>
          rw [request_eq_of_sameBut hc hboth, hx] at hx'
          cases hx'
          exact ⟨rfl, .refl _ u⟩
      obtain ⟨rfl, hu⟩ := hstep
      obtain ⟨rfl, hv⟩ := ih hrest' hu hl
      exact ⟨rfl, hv⟩

end Forget

end Curl

end WebTestbed
