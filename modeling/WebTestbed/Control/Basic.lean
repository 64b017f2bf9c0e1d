import WebTestbed.Environment.Basic
import WebTestbed.Probe.Poll

/-! Starting and stopping a server. A command asks for a change, and the server is then polled
until the change shows. -/
namespace WebTestbed

inductive ServerState where
  | stopped
  | starting
  | running
  | stopping
  deriving DecidableEq, Repr

inductive ControlCommand where
  | start
  | stop
  | graceful
  | gracefulStop
  deriving DecidableEq, Repr

def ControlCommand.word : ControlCommand → String
  | start => "start"
  | stop => "stop"
  | graceful => "graceful"
  | gracefulStop => "graceful-stop"

inductive Outcome where
  | done
  | refused
  /-- The server did not reach the state in time. -/
  | missed
  deriving DecidableEq, Repr

def Outcome.code : Outcome → Int
  | done => 0
  | refused => -1
  | missed => -2

structure Control where
  state : ServerState := .stopped
  /-- The time for a command, and again for the change to show. -/
  timeout : Duration := .ofSeconds 10
  /-- The time between two attempts to reach the server. -/
  interval : Duration := .ofMillis 200
  /-- What the last command wrote to standard error. -/
  errors : String := ""
  deriving DecidableEq, Repr

structure Controller (σ : Type) where
  env : Environment
  run : Runner σ
  probe : Probe σ

namespace Control

structure Managed (σ : Type) where
  control : Control
  session : Session σ

/-- A step of a run that controls a server. A fault leaves the control as it is at that moment. -/
abbrev Step (σ : Type) := ExceptT Fault (StateM (Managed σ))

def lift (a : Action σ α) : Step σ α :=
  ExceptT.mk (modifyGet fun m =>
    let (r, s) := a.run.run m.session
    (r, { m with session := s }))

def current : Step σ Control :=
  return (← get).control

def update (f : Control → Control) : Step σ Unit :=
  modify fun m => { m with control := f m.control }

def setState (s : ServerState) : Step σ Unit :=
  update ({ · with state := s })

def source : String := "httpd_harness::control"

def tell (level : Level) (text : String) : Step σ Unit :=
  lift (Action.tell level source text)

end Control

namespace Controller

open Control

def args (c : Controller σ) (cmd : ControlCommand) : List String :=
  [c.env.apachectl, "-d", c.env.serverDir.text, "-f", c.env.serverConfFile.text, "-k", cmd.word]

def give (c : Controller σ) (cmd : ControlCommand) : Step σ Bool := do
  let r ← lift (c.run { args := c.args cmd, timeout := (← current).timeout })
  update ({ · with errors := r.stderr })
  if !r.succeeded then
    tell .warn (cmd.word ++ " failed: " ++ r.summary)
  return r.succeeded

def isLive (c : Controller σ) (url : String) (timeout : Duration) : Step σ Bool := do
  let found ← lift (Probe.poll (← current).interval timeout (c.probe.answers url))
  if !found then
    tell .debug ("unable to contact server after " ++ timeout.text)
  return found

/-- Whether the server is seen not to be reachable at the URL within the time. -/
def isDead (c : Controller σ) (url : String) (timeout : Duration) : Step σ Bool := do
  let found ← lift (Probe.poll (← current).interval timeout (c.probe.refuses url))
  if !found then
    tell .debug ("server still responding after " ++ timeout.text)
  return found

def awaitLive (c : Controller σ) : Step σ Outcome := do
  if ← c.isLive c.env.httpBaseUrl (← current).timeout then
    setState .running
    return .done
  else
    setState .stopped
    return .missed

def awaitDead (c : Controller σ) : Step σ Outcome := do
  if ← c.isDead c.env.httpBaseUrl (← current).timeout then
    setState .stopped
    return .done
  else
    setState .running
    return .missed

def start (c : Controller σ) : Step σ Outcome := do
  tell .info "starting server"
  setState .starting
  if ← c.give .start then
    c.awaitLive
  else
    setState .stopped
    return .refused

/-- Stops the server by the given command. If that fails, the state is what it was. -/
def halt (c : Controller σ) (cmd : ControlCommand) : Step σ Outcome := do
  let before := (← current).state
  setState .stopping
  if ← c.give cmd then
    c.awaitDead
  else
    setState before
    return .refused

def stop (c : Controller σ) : Step σ Outcome := do
  tell .info "stopping server"
  c.halt .stop

def gracefulStop (c : Controller σ) : Step σ Outcome := do
  tell .info "stopping server gracefully"
  c.halt .gracefulStop

def reload (c : Controller σ) : Step σ Outcome := do
  tell .info "reloading server"
  if ← c.give .graceful then c.awaitLive else return .refused

def restart (c : Controller σ) : Step σ Outcome := do
  if (← current).state = .running then c.reload else c.start

def hardRestart (c : Controller σ) : Step σ Outcome := do
  match ← c.stop with
  | .missed => return .missed
  | _ => c.start

/-- Restarts a server that is expected to refuse to start, and is done if it ends up dead. -/
def expectFailure (c : Controller σ) : Step σ Outcome := do
  tell .info "expecting server to fail"
  let _ ← c.give .stop
  if !(← c.give .start) then
    tell .debug "server refused to start"
  c.awaitDead

def observe (c : Controller σ) : Step σ ServerState := do
  let found ← lift (c.probe.answers c.env.httpBaseUrl (← current).interval)
  let state : ServerState := if found then .running else .stopped
  setState state
  return state

end WebTestbed.Controller
