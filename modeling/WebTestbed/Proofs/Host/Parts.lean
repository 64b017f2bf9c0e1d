import WebTestbed.Host.Preset

/-! Calls on a configuration, taken apart into what opens a block, what closes one and what adds
lines. -/
namespace WebTestbed.ServerConfig

/-- A call that is made of no others. -/
inductive Part where
  | add (texts : List String)
  | startHost (domains : List String) (port : Option UInt16) (root : String) (withTls : Bool)
  | endHost
  deriving DecidableEq, Repr

def Part.opens : Part → Bool
  | .startHost .. => true
  | _ => false

def Part.closes : Part → Bool
  | .endHost => true
  | _ => false

def make (c : ServerConfig) : Part → Except BlockFault ServerConfig
  | .add texts => .ok (c.add texts)
  | .startHost domains port root withTls => c.startHost domains port root withTls
  | .endHost => c.endHost

def hostParts (h : Host) (lines : List String) : List Part :=
  [.startHost (h.name :: h.aliases) h.port h.root h.withTls, .add lines, .endHost]

def presetParts (e : Environment) : Preset → List Part
  | .test1 self selfHttp2 =>
    hostParts (testHost e "test1" "www1" e.httpPort) [] ++
      hostParts (testHost e "test1" "www1" e.httpsPort)
        (indexLines ++ proxyLines e "test1" self selfHttp2)
  | .test2 =>
    hostParts (testHost e "test2" "www2" e.httpPort) [] ++
      hostParts (testHost e "test2" "www2" e.httpsPort) indexLines
  | .cgi self selfHttp2 =>
    [.add (proxyingLines self selfHttp2)] ++
      hostParts (testHost e "cgi" "cgi-alias" e.httpsPort)
        (proxyLines e "cgi" self selfHttp2 ++ handlerLines) ++
      hostParts (testHost e "cgi" "cgi-alias" e.httpPort)
        ("AddHandler cgi-script .py" :: proxyLines e "cgi" self selfHttp2) ++
      [.add ["LogLevel proxy:info", "LogLevel proxy_http:info"]]
  | .noh2 =>
    hostParts (testHost e "noh2" "noh2-alias" e.httpsPort)
        ["Protocols http/1.1", "SSLOptions +StdEnvVars"] ++
      hostParts (testHost e "noh2" "noh2-alias" e.httpPort)
        ["Protocols http/1.1", "SSLOptions +StdEnvVars"]

/-- The parts of a call, in the order in which they are made. -/
def parts (c : ServerConfig) : Step → List Part
  | .add texts => [.add texts]
  | .startHost domains port root withTls => [.startHost domains port root withTls]
  | .endHost => [.endHost]
  | .addHost domains port root => [.startHost domains port root true, .endHost]
  | .addProxies host self selfHttp2 => [.add (proxyLines c.env host self selfHttp2)]
  | .addCertificate x => [.add (c.certificateLines x)]
  | .addPreset p => presetParts c.env p

/-- The parts fit one after the other, and lead from one configuration to the other. -/
inductive Made : ServerConfig → List Part → ServerConfig → Prop
  | nil {c} : Made c [] c
  | cons {c m d p ps} (first : c.make p = .ok m) (rest : Made m ps d) : Made c (p :: ps) d

/-- Where making parts got to: those that were made, the configuration that they left, and what the
next one did not fit, if there was one. -/
structure Outcome where
  made : List Part
  left : ServerConfig
  fault : Option BlockFault

/-- Makes parts until one does not fit. What was made before it stays. -/
def makeAll (c : ServerConfig) : List Part → Outcome
  | [] => ⟨[], c, none⟩
  | p :: ps =>
    match c.make p with
    | .error f => ⟨[], c, some f⟩
    | .ok d => { d.makeAll ps with made := p :: (d.makeAll ps).made }

/-- The parts that a sequence of calls makes, those of a call that does not fit only up to there. -/
def history (c : ServerConfig) : List Step → List Part
  | [] => []
  | s :: ss => (c.makeAll (c.parts s)).made ++ (c.step s).history ss

/-- The calls that do not fit a configuration. -/
inductive Misfit (c : ServerConfig) : Step → BlockFault → Prop
  | unopened : c.document.depth = 0 → c.Misfit .endHost .noOpenBlock
  | unnamed {port root withTls} : c.Misfit (.startHost [] port root withTls) .noServerName
  | unnamedHost {port root} : c.Misfit (.addHost [] port root) .noServerName

variable {c d m : ServerConfig} {p : Part} {ps qs : List Part}

theorem make_startHost_eq_ok {domains : List String} {port : Option UInt16} {root : String}
    {withTls : Bool} (h : c.make (.startHost domains port root withTls) = .ok d) :
    ∃ name aliases, domains = name :: aliases ∧
      d = c.openHost ⟨name, aliases, port, root, withTls⟩ := by
  cases domains with
  | nil => cases h
  | cons name aliases =>
    have hd : c.openHost ⟨name, aliases, port, root, withTls⟩ = d := Except.ok.inj h
    exact ⟨name, aliases, rfl, hd.symm⟩

theorem make_endHost_eq_ok (h : c.make .endHost = .ok d) :
    c.document.depth ≠ 0 ∧ d = c.closeHost := by
  by_cases h0 : c.document.depth = 0
  · simp [make, endHost, h0] at h
  · have hd : c.closeHost = d := by simpa [make, endHost, h0] using h
    exact ⟨h0, hd.symm⟩

/-- All that a part can do. -/
theorem make_cases (h : c.make p = .ok d) :
    (∃ texts, p = .add texts ∧ d = c.add texts) ∨
    (∃ name aliases port root withTls, p = .startHost (name :: aliases) port root withTls ∧
      d = c.openHost ⟨name, aliases, port, root, withTls⟩) ∨
    (p = .endHost ∧ c.document.depth ≠ 0 ∧ d = c.closeHost) := by
  cases p with
  | add texts =>
    have hd : c.add texts = d := Except.ok.inj h
    exact .inl ⟨texts, rfl, hd.symm⟩
  | startHost domains port root withTls =>
    obtain ⟨name, aliases, rfl, hd⟩ := make_startHost_eq_ok h
    exact .inr (.inl ⟨name, aliases, port, root, withTls, rfl, hd⟩)
  | endHost => exact .inr (.inr ⟨rfl, make_endHost_eq_ok h⟩)

theorem endHost_of_depth_ne_zero (h : c.document.depth ≠ 0) : c.endHost = .ok c.closeHost := by
  rw [endHost, if_neg h]

@[simp] theorem depth_openHost (c : ServerConfig) (h : Host) :
    (c.openHost h).document.depth = c.document.depth + 1 := rfl

@[simp] theorem depth_closeHost (c : ServerConfig) :
    c.closeHost.document.depth = c.document.depth - 1 := rfl

@[simp] theorem document_add (c : ServerConfig) (texts : List String) :
    (c.add texts).document = c.document.add texts := rfl

/-- Parts change nothing but the document. -/
theorem make_eq_with_document (h : c.make p = .ok d) : d = { c with document := d.document } := by
  obtain ⟨texts, -, rfl⟩ | ⟨name, aliases, port, root, withTls, -, rfl⟩ | ⟨-, -, rfl⟩ :=
    make_cases h <;> rfl

namespace Made

theorem single (h : c.make p = .ok d) : Made c [p] d :=
  .cons h .nil

theorem append (h : Made c ps m) (h' : Made m qs d) : Made c (ps ++ qs) d := by
  induction h with
  | nil => exact h'
  | cons first _ ih => exact .cons first (ih h')

theorem of_append (h : Made c (ps ++ qs) d) : ∃ m, Made c ps m ∧ Made m qs d := by
  induction ps generalizing c with
  | nil => exact ⟨c, .nil, h⟩
  | cons p ps ih =>
    cases h with
    | cons first rest =>
      obtain ⟨m, h1, h2⟩ := ih rest
      exact ⟨m, .cons first h1, h2⟩

/-- What holds at the start, and is kept by every part, holds at the end. -/
theorem keeps {P : ServerConfig → Prop} (hp : ∀ {c p d}, P c → c.make p = .ok d → P d)
    (h : Made c ps d) (hc : P c) : P d := by
  induction h with
  | nil => exact hc
  | cons first _ ih => exact ih (hp hc first)

theorem eq_with_document (h : Made c ps d) : d = { c with document := d.document } := by
  refine h.keeps (P := fun x => x = { c with document := x.document }) ?_ rfl
  intro a p b ha hb
  rw [make_eq_with_document hb, ha]

theorem env_eq (h : Made c ps d) : d.env = c.env := by
  rw [h.eq_with_document]

/-- The blocks that are open afterwards are those that were, and those opened but not closed. -/
theorem depth_add_closes (h : Made c ps d) :
    d.document.depth + ps.countP Part.closes = c.document.depth + ps.countP Part.opens := by
  induction h with
  | nil => rfl
  | @cons c m d p ps first _ ih =>
    rw [List.countP_cons, List.countP_cons]
    obtain ⟨texts, rfl, rfl⟩ | ⟨name, aliases, port, root, withTls, rfl, rfl⟩ | ⟨rfl, h0, rfl⟩ :=
      make_cases first
    · simpa [Part.opens, Part.closes] using ih
    · simp only [depth_openHost] at ih
      simp only [Part.opens, Part.closes, if_true, Bool.false_eq_true, if_false]
      omega
    · simp only [depth_closeHost] at ih
      simp only [Part.opens, Part.closes, if_true, Bool.false_eq_true, if_false]
      omega

theorem prefix_lines (h : Made c ps d) : c.document.lines <+: d.document.lines := by
  refine h.keeps (P := fun x => c.document.lines <+: x.document.lines) ?_ (List.prefix_refl _)
  intro a p b ha hb
  refine ha.trans ?_
  obtain ⟨texts, -, rfl⟩ | ⟨name, aliases, port, root, withTls, -, rfl⟩ | ⟨-, -, rfl⟩ :=
    make_cases hb
  · exact List.prefix_append _ _
  · simp [openHost, Document.add, Document.push]
  · simp [closeHost, Document.add, Document.leave]

theorem makeAll (h : Made c ps d) : c.makeAll ps = ⟨ps, d, none⟩ := by
  induction h with
  | nil => rfl
  | cons first _ ih => simp [ServerConfig.makeAll, first, ih]

end Made

/-- The parts that were made lead to the configuration that they left. -/
theorem made_makeAll (c : ServerConfig) (ps : List Part) :
    Made c (c.makeAll ps).made (c.makeAll ps).left := by
  induction ps generalizing c with
  | nil => exact .nil
  | cons p ps ih =>
    unfold makeAll
    cases hp : c.make p with
    | error f => exact .nil
    | ok m => exact .cons hp (ih m)

theorem made_add (c : ServerConfig) (texts : List String) : Made c [.add texts] (c.add texts) :=
  .single rfl

theorem made_hostParts (c : ServerConfig) (h : Host) (lines : List String) :
    Made c (hostParts h lines) (c.addHostWith h lines) := by
  have hopen : ((c.openHost h).add lines).document.depth ≠ 0 := Nat.succ_ne_zero _
  refine .cons (m := c.openHost h) rfl (.cons (m := (c.openHost h).add lines) rfl (.single ?_))
  exact endHost_of_depth_ne_zero hopen

theorem made_presetParts (c : ServerConfig) (p : Preset) :
    Made c (presetParts c.env p) (c.addPreset p) := by
  cases p with
  | test1 self selfHttp2 => exact (made_hostParts _ _ _).append (made_hostParts _ _ _)
  | test2 => exact (made_hostParts _ _ _).append (made_hostParts _ _ _)
  | cgi self selfHttp2 =>
    exact (((made_add c _).append (made_hostParts _ _ _)).append (made_hostParts _ _ _)).append
      (made_add _ _)
  | noh2 => exact (made_hostParts _ _ _).append (made_hostParts _ _ _)

theorem addHost_cons (c : ServerConfig) (name : String) (aliases : List String)
    (port : Option UInt16) (root : String) :
    c.addHost (name :: aliases) port root =
      .ok (c.openHost ⟨name, aliases, port, root, true⟩).closeHost := by
  have hopen : (c.openHost ⟨name, aliases, port, root, true⟩).document.depth ≠ 0 :=
    Nat.succ_ne_zero _
  exact endHost_of_depth_ne_zero hopen

/-- A call fails exactly where it does not fit. -/
theorem apply_eq_error_iff (c : ServerConfig) (s : Step) (f : BlockFault) :
    c.apply s = .error f ↔ c.Misfit s f := by
  constructor
  · intro h
    cases s with
    | startHost domains port root withTls =>
      cases domains with
      | nil => cases h; exact .unnamed
      | cons name aliases => cases h
    | endHost =>
      by_cases h0 : c.document.depth = 0
      · simp only [apply, endHost, if_pos h0, Except.error.injEq] at h
        exact h ▸ .unopened h0
      · simp [apply, endHost, h0] at h
    | addHost domains port root =>
      cases domains with
      | nil => cases h; exact .unnamedHost
      | cons name aliases => rw [apply, addHost_cons] at h; cases h
    | _ => cases h
  · intro h
    cases h with
    | unopened h0 => rw [apply, endHost, if_pos h0]
    | unnamed => rfl
    | unnamedHost => rfl

/-- A call that fits is made in all its parts. -/
theorem made_parts {s : Step} (h : c.apply s = .ok d) : Made c (c.parts s) d := by
  cases s with
  | addHost domains port root =>
    cases domains with
    | nil => cases h
    | cons name aliases =>
      rw [apply, addHost_cons, Except.ok.injEq] at h
      subst h
      exact .cons (m := c.openHost ⟨name, aliases, port, root, true⟩) rfl
        (.single (endHost_of_depth_ne_zero (Nat.succ_ne_zero _)))
  | addPreset p =>
    cases h
    exact made_presetParts c p
  | _ => exact .single h

/-- A call that does not fit is made in none of its parts. -/
theorem makeAll_parts_of_misfit {s : Step} {f : BlockFault} (h : c.Misfit s f) :
    c.makeAll (c.parts s) = ⟨[], c, some f⟩ := by
  cases h with
  | unopened h0 => simp [parts, makeAll, make, endHost, h0]
  | unnamed => rfl
  | unnamedHost => rfl

/-- What making the parts of a call leaves is what the call leaves. -/
theorem left_makeAll_parts (c : ServerConfig) (s : Step) :
    (c.makeAll (c.parts s)).left = c.step s := by
  unfold step
  cases hs : c.apply s with
  | error f => rw [makeAll_parts_of_misfit ((apply_eq_error_iff c s f).mp hs)]
  | ok d => rw [(made_parts hs).makeAll]

theorem made_history (c : ServerConfig) (steps : List Step) :
    Made c (c.history steps) (steps.foldl step c) := by
  induction steps generalizing c with
  | nil => exact .nil
  | cons s ss ih =>
    have hs : Made c (c.makeAll (c.parts s)).made (c.step s) := by
      rw [← left_makeAll_parts]
      exact made_makeAll c (c.parts s)
    exact hs.append (ih (c.step s))

section Congruence

variable {b : ServerConfig}

/-- Whether a part fits, and how many blocks are open after it, depends on how many are open before
it only. -/
theorem make_congr (h : c.document.depth = b.document.depth) (hp : c.make p = .ok d) :
    ∃ n, b.make p = .ok n ∧ d.document.depth = n.document.depth := by
  obtain ⟨texts, rfl, rfl⟩ | ⟨name, aliases, port, root, withTls, rfl, rfl⟩ | ⟨rfl, h0, rfl⟩ :=
    make_cases hp
  · exact ⟨b.add texts, rfl, h⟩
  · exact ⟨b.openHost ⟨name, aliases, port, root, withTls⟩, rfl, by simp [h]⟩
  · exact ⟨b.closeHost, endHost_of_depth_ne_zero (h ▸ h0), by simp [h]⟩

theorem makeAll_congr (h : c.document.depth = b.document.depth) (ps : List Part) :
    (c.makeAll ps).made = (b.makeAll ps).made ∧
      (c.makeAll ps).left.document.depth = (b.makeAll ps).left.document.depth := by
  induction ps generalizing c b with
  | nil => exact ⟨rfl, h⟩
  | cons p ps ih =>
    unfold makeAll
    cases hp : c.make p with
    | error f =>
      cases hb : b.make p with
      | error f' => exact ⟨rfl, h⟩
      | ok n =>
        obtain ⟨d, hd, -⟩ := make_congr h.symm hb
        rw [hp] at hd
        cases hd
    | ok d =>
      obtain ⟨n, hb, hd⟩ := make_congr h hp
      rw [hb]
      exact ⟨congrArg (p :: ·) (ih hd).1, (ih hd).2⟩

theorem parts_congr (h : c.env = b.env) (s : Step) : c.parts s = b.parts s := by
  cases s <;> simp only [parts, certificateLines, h]

theorem env_step (c : ServerConfig) (s : Step) : (c.step s).env = c.env := by
  rw [← left_makeAll_parts]
  exact (made_makeAll c (c.parts s)).env_eq

/-- Which parts are made depends on the environment and the open blocks only. -/
theorem history_congr (henv : c.env = b.env) (h : c.document.depth = b.document.depth)
    (steps : List Step) : c.history steps = b.history steps := by
  induction steps generalizing c b with
  | nil => rfl
  | cons s steps ih =>
    have hmade := makeAll_congr h (c.parts s)
    have henv' : (c.step s).env = (b.step s).env := by
      rw [env_step, env_step, henv]
    have hdepth : (c.step s).document.depth = (b.step s).document.depth := by
      rw [← left_makeAll_parts, ← left_makeAll_parts, ← parts_congr henv]
      exact hmade.2
    rw [history, history, hmade.1, ih henv' hdepth, parts_congr henv]

theorem mem_of_mem_made (h : p ∈ (c.makeAll ps).made) : p ∈ ps := by
  induction ps generalizing c with
  | nil => cases h
  | cons q ps ih =>
    unfold makeAll at h
    cases hq : c.make q with
    | error f => simp [hq] at h
    | ok d =>
      rw [hq] at h
      obtain rfl | h := List.mem_cons.mp h
      · exact List.mem_cons_self
      · exact List.mem_cons_of_mem q (ih h)

theorem mem_parts_of_mem_history {steps : List Step} (h : p ∈ c.history steps) :
    p ∈ steps.flatMap c.parts := by
  induction steps generalizing c with
  | nil => cases h
  | cons s steps ih =>
    rw [List.flatMap_cons, List.mem_append]
    obtain h | h := List.mem_append.mp h
    · exact .inl (mem_of_mem_made h)
    · right
      have hparts : (c.step s).parts = c.parts := funext (parts_congr (env_step c s))
      rw [← hparts]
      exact ih h

end Congruence

end WebTestbed.ServerConfig
