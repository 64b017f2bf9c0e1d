import WebTestbed.Shell.Machine

/-! What programs have in common: they take arguments and end with a status. -/
namespace WebTestbed.Shell

abbrev Program := List String → Step Nat

namespace Program

def complain (program s : String) : Step Unit :=
  Step.complain (program ++ ": " ++ s)

def usage (program s : String) : Step Nat := do
  complain program s
  Step.complain ("Try '" ++ program ++ " --help' for more information.")
  return 1

/-- The content of a file that a program is given by name; a hyphen means its input. -/
def contentOf (name : String) : Step (Except FileError Bytes) := do
  if name = "-" || name = "/dev/stdin" then return .ok (← Step.takeInput)
  if name = "/dev/null" then return .ok []
  return (← get).files.read ⟨name⟩

/-- Does something with each of the files that can be read, or with the input if there are none. The
status is one if a file cannot be read, which `say` tells of its name. -/
def forContentsSaying (say : String → String) (program : String) (names : List String)
    (f : String → Bytes → Step Unit) : Step Nat := do
  let mut status := 0
  for name in if names.isEmpty then ["-"] else names do
    match ← contentOf name with
    | .ok content => f name content
    | .error e =>
      complain program (say name ++ ": " ++ e.reason)
      status := 1
  return status

def forContents (program : String) (names : List String) (f : String → Bytes → Step Unit) :
    Step Nat :=
  forContentsSaying id program names f

def forFiles (program action : String) (names : List String)
    (f : FileTree → Path → Except FileError FileTree) : Step Nat := do
  if names.isEmpty then return ← usage program "missing operand"
  let mut status := 0
  for name in names do
    let m ← get
    match f m.files ⟨name⟩ with
    | .ok t => set { m with files := t }
    | .error e =>
      complain program (action ++ " '" ++ name ++ "': " ++ e.reason)
      status := 1
  return status

def isOption (s : String) : Bool :=
  s.startsWith "-" && s ≠ "-"

def operands (args : List String) : List String :=
  args.filter (!isOption ·)

def hasOption (args : List String) (letter : Char) : Bool :=
  args.any fun s => isOption s && !s.startsWith "--" && s.contains letter

/-- The lines of a text, each without its end; `line` is the one that is read, last byte first. -/
def linesFrom (line : Bytes) : Bytes → List Bytes
  | [] => if line.isEmpty then [] else [line.reverse]
  | b :: r => if b = 10 then line.reverse :: linesFrom [] r else linesFrom (b :: line) r

def linesOf (content : Bytes) : List Bytes :=
  linesFrom [] content

def printLines (lines : List Bytes) : Step Unit :=
  Step.print (lines.flatMap (· ++ [10]))

end WebTestbed.Shell.Program
