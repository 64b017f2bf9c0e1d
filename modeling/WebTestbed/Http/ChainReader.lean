import WebTestbed.Http.Response
import WebTestbed.Text.Quoted

/-! Reading a chain of responses from the header lines of a stream. -/
namespace WebTestbed.Http

/-- A line that does not fit where it stands; lines count from 1. -/
inductive ChainError where
  | statusLine (line : Nat) (text : String)
  | headerLine (line : Nat) (text : String)
  deriving DecidableEq, Repr

namespace ChainError

def line : ChainError → Nat
  | statusLine n _ => n
  | headerLine n _ => n

def text : ChainError → String
  | statusLine _ t => t
  | headerLine _ t => t

def message : ChainError → String
  | statusLine n t => "invalid status line " ++ toString n ++ ": " ++ Text.quote t
  | headerLine n t => "invalid header line " ++ toString n ++ ": " ++ Text.quote t

end ChainError

/-- Reads the lines from the `n`-th on. `open_` tells whether the newest response still takes header
lines; an empty line closes it, and the next line is a status line. -/
def readLines (n : Nat) (open_ : Bool) (c : Option Chain) :
    List (List Char) → Except ChainError (Option Chain)
  | [] => .ok c
  | l :: r =>
    if open_ then
      if l.isEmpty then readLines (n + 1) false c r
      else match readHeader? l with
        | none => .error (.headerLine n (String.ofList l))
        | some field => readLines (n + 1) true (c.map (·.withHeader field)) r
    else match readStatus? l with
      | none => .error (.statusLine n (String.ofList l))
      | some s => readLines (n + 1) true (some (Chain.push (.ofStatus s) c)) r

/-- Reads the chain a header stream describes. The body belongs to its newest response. -/
def readChain (stream body : Bytes) : Except ChainError (Option Chain) :=
  (readLines 1 false none (Text.lines (Utf8.lossy stream))).map (·.map (·.withBody body))

inductive LineKind where
  | status
  | header
  deriving DecidableEq, Repr

/-- The lines that are read as status or header lines, up to the first that is malformed. -/
def linesRead (open_ : Bool) : List (List Char) → List (LineKind × String)
  | [] => []
  | l :: r =>
    if open_ then
      if l.isEmpty then linesRead false r
      else (.header, String.ofList l) :: if (readHeader? l).isSome then linesRead true r else []
    else (.status, String.ofList l) :: if (readStatus? l).isSome then linesRead true r else []

def streamLinesRead (stream : Bytes) : List (LineKind × String) :=
  linesRead false (Text.lines (Utf8.lossy stream))

end WebTestbed.Http
