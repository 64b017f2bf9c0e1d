import WebTestbed.Session
import WebTestbed.Shell.Grammar

/-! What running a script changes: files, time, variables, and what is read and written. -/
namespace WebTestbed.Shell

/-- Where output goes: into one of the texts that are collected, to the end of a file, or nowhere.
-/
inductive Sink where
  | buffer (index : Nat)
  | file (path : Path)
  | nowhere
  deriving DecidableEq, Repr

inductive Stop where
  | exit (status : Nat)
  | signal (number : Nat)
  | late
  /-- There are no steps left, or the clock does not reach what is waited for. -/
  | endless
  | leaveLoop (levels : Nat)
  | nextRound (levels : Nat)
  | returned (status : Nat)
  deriving DecidableEq, Repr

structure Options where
  /-- To end at the first command that fails. -/
  stopAtFailure : Bool := false
  /-- To take parameters without a value as errors. -/
  needValues : Bool := false
  trace : Bool := false
  deriving DecidableEq, Repr

structure Machine where
  files : FileTree
  clock : Duration
  deadline : Option Duration
  busyUntil : Duration := ⟨0⟩
  /-- The number of the last command in the background, and its status. -/
  lastJob : Option (Nat × Nat) := none
  bindings : List (String × String) := []
  functions : List (String × Command) := []
  params : List String := []
  options : Options := {}
  /-- What signals make the script do; the number 0 stands for its end. -/
  traps : List (Nat × String) := []
  loops : Nat := 0
  /-- The variables that a function has for itself, with the values they had before. -/
  locals : Option (List (String × Option String)) := none
  constants : List String := []
  exported : List String := []
  /-- Whether the command is a test, whose failure does not end the script. -/
  tested : Bool := false
  name : String
  line : Nat := 1
  status : Nat := 0
  process : Nat := 1000
  input : Bytes := []
  output : Sink := .buffer 0
  errors : Sink := .buffer 1
  others : List (Nat × Sink) := []
  /-- The texts that are collected, each last part first. -/
  buffers : List (List Bytes) := [[], []]

abbrev Step := ExceptT Stop (StateM Machine)

namespace Machine

def value? (m : Machine) (name : String) : Option String :=
  m.bindings.lookup name

def assign (m : Machine) (name value : String) : Machine :=
  { m with bindings := (name, value) :: m.bindings.filter (·.1 ≠ name) }

def reset (m : Machine) (name : String) (before : Option String) : Machine :=
  match before with
  | some v => m.assign name v
  | none => { m with bindings := m.bindings.filter (·.1 ≠ name) }

def job? (m : Machine) : Option Nat :=
  m.lastJob.map (·.1)

def endJob (m : Machine) (status : Nat) : Machine :=
  { m with busyUntil := m.clock, lastJob := m.lastJob.map fun j => (j.1, status) }

def separators (m : Machine) : List Char :=
  ((m.value? "IFS").getD " \t\n").toList

def collected (m : Machine) (index : Nat) : Bytes :=
  ((m.buffers[index]?.getD []).reverse).flatten

def write (m : Machine) (s : Sink) (bytes : Bytes) : Machine :=
  match s with
  | .buffer i => { m with buffers := m.buffers.modify i (bytes :: ·) }
  | .file p => { m with files := (m.files.append p bytes).toOption.getD m.files }
  | .nowhere => m

end Machine

namespace Step

/-- Lets time pass; nothing happens after the deadline. -/
def spend (d : Duration) : Step Unit := do
  let m ← get
  let clock : Duration := ⟨m.clock.nanos + d.nanos⟩
  match m.deadline with
  | some limit =>
    if limit.nanos < clock.nanos then
      set { m with clock := limit }
      throw .late
  | none => if Action.clockLimit ≤ clock.nanos then throw .endless
  set { m with clock := clock }

def print (bytes : Bytes) : Step Unit :=
  modify fun m => m.write m.output bytes

def printText (s : String) : Step Unit :=
  print (Utf8.encode s)

def complain (s : String) : Step Unit :=
  modify fun m => m.write m.errors (Utf8.encode (s ++ "\n"))

def complainHere (s : String) : Step Unit := do
  let m ← get
  complain (m.name ++ ": " ++ toString m.line ++ ": " ++ s)

def takeInput : Step Bytes :=
  modifyGet fun m => (m.input, { m with input := [] })

/-- Puts back what was changed for a while, whatever ends a step. -/
def restoring (x : Step α) (restore : Machine → Machine) : Step α :=
  tryCatch (do
      let a ← x
      modify restore
      return a)
    fun stop => do
      modify restore
      throw stop

def asTest (x : Step α) : Step α := do
  let before ← get
  set { before with tested := true }
  restoring x fun m => { m with tested := before.tested }

def setStatus (n : Nat) : Step Unit :=
  modify ({ · with status := n })

def failHere (s : String) : Step α := do
  complainHere s
  throw (.exit 2)

def collect (x : Step α) : Step (α × Bytes) := do
  let before ← get
  let index := before.buffers.length
  set { before with output := .buffer index, buffers := before.buffers ++ [[]] }
  let restore (m : Machine) : Machine := { m with output := before.output }
  let a ← restoring x restore
  let m ← get
  set { m with buffers := m.buffers.take index }
  return (a, m.collected index)

end Step

end WebTestbed.Shell
