import WebTestbed.Session

/-! Running commands, with a limit to their time. The system is a parameter: which commands it can
start, how and when they end, and what they leave. -/
namespace WebTestbed.Command

inductive Ending where
  | exited (code : Int)
  | signal
  | lost (reason : String)
  deriving DecidableEq, Repr

def Ending.code : Ending → Int
  | exited code => code
  | signal | lost _ => exitFailed

/-- What there is at the moment when all pipes to a command are closed. -/
structure Remains (σ : Type) where
  moment : Duration
  files : FileTree
  outside : σ
  output : Bytes := []
  errors : Bytes := []

/-- A command that was started. It may never end, and what it started itself may keep its pipes open
for ever. -/
structure Child (σ : Type) where
  /-- When and how it ends if nothing stops it. -/
  ending : Option (Duration × Ending)
  remains : Option (Remains σ)
  /-- What it leaves if its group is to be killed at a moment. -/
  killed : Duration → Option (Remains σ)
  killError : Duration → Option String

abbrev Starter (σ : Type) := List String → Option Bytes → Session σ → Except String (Child σ)

def source : String := "httpd_harness::exec"

def waitInterval : Duration := .ofMillis 10

/-- Looks at a command until it has ended or the deadline has come: the moment of the last look, and
how it had ended by then. There is no last look at a command that never ends, without a deadline. -/
def waitUntil (ending : Option (Duration × Ending)) (deadline : Option Duration) (now : Duration) :
    Option (Duration × Option Ending) :=
  match ending, deadline with
  | none, none => none
  | some (moment, e), none =>
    if moment.nanos ≤ now.nanos then some (now, some e)
    else waitUntil (some (moment, e)) none ⟨now.nanos + waitInterval.nanos⟩
  | ending, some d =>
    match ending.filter (·.1.nanos ≤ now.nanos) with
    | some (_, e) => some (now, some e)
    | none =>
      if d.nanos ≤ now.nanos then some (now, none)
      else waitUntil ending (some d) ⟨now.nanos + waitInterval.nanos.min (d.nanos - now.nanos)⟩
termination_by ((deadline.or (ending.map (·.1))).map (·.nanos)).getD 0 - now.nanos
decreasing_by
  all_goals
    have hinterval : 0 < waitInterval.nanos := by decide
    simp only [Option.map_some, Option.none_or, Option.some_or, Option.getD_some]
    grind

def collect (args : List String) (code : Int) : Option (Remains σ) → Action σ Result
  | none => throw .endless
  | some r => do
    modify fun s => { s with files := { r.files with workDir := s.files.workDir }
                             clock := s.clock.max r.moment, outside := r.outside }
    return ⟨args, code, r.output, r.errors, none, []⟩

def Child.await (child : Child σ) (i : Invocation) (program : String) (deadline : Option Duration) :
    Action σ Result := do
  match waitUntil child.ending deadline (← Action.now) with
  | none => throw .endless
  | some (moment, some e) =>
    modify ({ · with clock := moment })
    if let .lost reason := e then
      Action.tell .error source ("failed to wait for command: " ++ reason)
    collect i.args e.code child.remains
  | some (moment, none) =>
    modify ({ · with clock := moment })
    Action.tell .debug source ("command timed out after " ++
      (i.timeout.map fun d => "Some(" ++ d.text ++ ")").getD "None" ++ ": " ++ program)
    if let some reason := child.killError moment then
      Action.tell .debug source ("failed to kill command: " ++ reason)
    collect i.args exitTimeout (child.killed moment)

/-- Runs a command. What goes wrong shows in its exit code, but that the clock may not reach the end
of its time, and that the wait for it may have no end. -/
def run (start : Starter σ) : Runner σ := fun i => do
  let s ← get
  Action.tell .debug source ("running: " ++ Text.joinWith " " i.args)
  match i.args with
  | [] =>
    Action.tell .error source "no command given"
    return ⟨i.args, exitFailed, [], [], none, []⟩
  | program :: _ =>
    match start i.args i.input s with
    | .error reason =>
      Action.tell .error source ("failed to execute command: " ++ reason)
      return ⟨i.args, exitFailed, [], Utf8.encode reason, none, []⟩
    | .ok child =>
      let deadline ← i.timeout.mapM Action.deadline
      child.await i program deadline

end WebTestbed.Command
