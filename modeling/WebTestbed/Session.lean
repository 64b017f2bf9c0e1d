import WebTestbed.Command.Result
import WebTestbed.Files.FileTree
import WebTestbed.Journal
import WebTestbed.Number.Duration

/-! Runs of the testbed: files, time and journal, and the commands that change them. -/
namespace WebTestbed

/-- What a run has done so far. `outside` is whatever the commands it runs keep between them. -/
structure Session (σ : Type) where
  files : FileTree
  clock : Duration := ⟨0⟩
  /-- What was told, last first. -/
  journal : List Entry := []
  outside : σ

inductive Fault where
  | clockOverflow
  /-- It waits for a command and will wait for ever. -/
  | endless
  deriving DecidableEq, Repr

def Fault.message : Fault → String
  | clockOverflow => "overflow when adding duration to instant"
  | endless => "waiting for a command that does not end"

abbrev Action (σ : Type) := ExceptT Fault (StateM (Session σ))

namespace Action

def tell (level : Level) (source text : String) : Action σ Unit :=
  modify fun s => { s with journal := ⟨s.clock, level, source, text⟩ :: s.journal }

def now : Action σ Duration :=
  return (← get).clock

def pass (d : Duration) : Action σ Unit :=
  modify fun s => { s with clock := ⟨s.clock.nanos + d.nanos⟩ }

/-- Clocks count less than this many nanoseconds. -/
def clockLimit : Nat := Nat.pow 2 63 * Duration.perSecond

def deadline (d : Duration) : Action σ Duration := do
  let t ← now
  if t.nanos + d.nanos < clockLimit then return ⟨t.nanos + d.nanos⟩ else throw .clockOverflow

def readFiles (f : FileTree → α) : Action σ α :=
  return f (← get).files

def changeFiles (f : FileTree → Except FileError FileTree) : Action σ (Except FileError Unit) := do
  let s ← get
  match f s.files with
  | .ok t =>
    set { s with files := t }
    return .ok ()
  | .error e => return .error e

end Action

structure Invocation where
  args : List String
  input : Option Bytes := none
  timeout : Option Duration := none
  deriving DecidableEq, Repr

abbrev Runner (σ : Type) := Invocation → Action σ Command.Result

end WebTestbed
