import WebTestbed.Http.Response
import WebTestbed.Json.Reader
import WebTestbed.Text.Quoted

/-! How a command ended. -/
namespace WebTestbed.Command

/-- The exit code of a command that could not be run, or that a signal ended. -/
def exitFailed : Int := -1

/-- The exit code of a command that was stopped at its time limit. -/
def exitTimeout : Int := -2

structure Result where
  args : List String
  exitCode : Int
  output : Bytes
  errors : Bytes
  response : Option Http.Chain := none
  results : Json.Fields := []

namespace Result

def succeeded (r : Result) : Bool :=
  r.exitCode = 0

def stdout (r : Result) : String :=
  Utf8.lossyString r.output

def stderr (r : Result) : String :=
  Utf8.lossyString r.errors

def json (r : Result) : Option Json.Value :=
  Json.read? r.output

def withResponse (r : Result) (c : Option Http.Chain) : Result :=
  { r with response := c }

/-- Adds named results; they replace those of the same name. -/
def withResults (r : Result) (results : Json.Fields) : Result :=
  { r with results := r.results.extend results }

def summary (r : Result) : String :=
  "ExecResult[code=" ++ toString r.exitCode ++ ", args=" ++ Text.quoteList r.args ++ ", stdout=" ++
    r.stdout ++ ", stderr=" ++ r.stderr ++ "]"

end WebTestbed.Command.Result
