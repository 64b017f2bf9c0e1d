import WebTestbed.Command.Result
import WebTestbed.Text.Digit

/-! The counts a load generator prints at the end of its run. -/
namespace WebTestbed.Command

structure RequestCounts where
  total : Nat
  started : Nat
  done : Nat
  succeeded : Nat
  failed : Nat
  errored : Nat
  timeout : Nat
  deriving DecidableEq, Repr

structure StatusCounts where
  success : Nat
  redirection : Nat
  clientError : Nat
  serverError : Nat
  deriving DecidableEq, Repr

structure LoadReport where
  requests : RequestCounts
  statuses : Option StatusCounts
  deriving DecidableEq, Repr

namespace LoadReport

def dropStart? : List Char → List Char → Option (List Char)
  | [], s => some s
  | _ :: _, [] => none
  | p :: ps, c :: r => if c = p then dropStart? ps r else none

/-- Reads a run of digits before each of the labels; the labels start with no digit. -/
def runsBefore? : List String → List Char → Option (List (List Char))
  | [], _ => some []
  | label :: labels, s => do
    let digits := s.takeWhile Text.isAnyDigit
    if digits.isEmpty then none
    let rest ← dropStart? label.toList (s.dropWhile Text.isAnyDigit)
    let runs ← runsBefore? labels rest
    return digits :: runs

/-- The runs of digits at the first place where the heading and all labels fit. -/
def findRuns? (heading : String) (labels : List String) : List Char → Option (List (List Char))
  | [] => none
  | c :: r =>
    ((dropStart? heading.toList (c :: r)).bind (runsBefore? labels)).or (findRuns? heading labels r)

def counts? (runs : List (List Char)) : Option (List Nat) :=
  runs.mapM (Numeral.signedRead? Numeral.max64)

def requestLabels : List String :=
  [" total, ", " started, ", " done, ", " succeeded, ", " failed, ", " errored, ", " timeout"]

def statusLabels : List String :=
  [" 2xx, ", " 3xx, ", " 4xx, ", " 5xx"]

def readRequests? (s : List Char) : Option RequestCounts := do
  match ← counts? (← findRuns? "requests: " requestLabels s) with
  | [a, b, c, d, e, f, g] => return ⟨a, b, c, d, e, f, g⟩
  | _ => none

def readStatuses? (s : List Char) : Option StatusCounts := do
  match ← counts? (← findRuns? "status codes: " statusLabels s) with
  | [a, b, c, d] => return ⟨a, b, c, d⟩
  | _ => none

/-- Reads a report. Without counts of requests there is none; those of status codes may be missing.
-/
def read? (s : String) : Option LoadReport := do
  return ⟨← readRequests? s.toList, readStatuses? s.toList⟩

def key : String := "h2load"

def count (name : String) (n : Nat) : String × Json.Value :=
  (name, .number (.whole n))

def RequestCounts.fields (r : RequestCounts) : Json.Fields :=
  [count "total" r.total, count "started" r.started, count "done" r.done,
    count "succeeded" r.succeeded, count "failed" r.failed, count "errored" r.errored,
    count "timeout" r.timeout]

def StatusCounts.fields (s : StatusCounts) : Json.Fields :=
  [count "2xx" s.success, count "3xx" s.redirection, count "4xx" s.clientError,
    count "5xx" s.serverError]

def toJson (r : LoadReport) : Json.Value :=
  .object (("requests", .object (RequestCounts.fields r.requests)) ::
    (r.statuses.map fun s => ("status", .object (StatusCounts.fields s))).toList)

/-- Adds the report a command printed to its results, if it printed one. -/
def attach (r : Result) : Result :=
  match read? r.stdout with
  | none => r
  | some report => r.withResults [(key, report.toJson)]

end WebTestbed.Command.LoadReport
