import WebTestbed.Number.Duration
import WebTestbed.Text.Numeral

/-! What the words of a command line may be: the commands, and the arguments that each takes. -/
namespace WebTestbed.CommandLine

inductive ValueKind where
  | text
  /-- A path, which is not empty. -/
  | path
  /-- A number of 64 bits. -/
  | number
  | choice (names : List String)
  deriving DecidableEq, Repr

inductive Form where
  | flag
  | option
  /-- By its name and a value, any number of times. -/
  | options
  /-- By words that no name precedes. -/
  | words
  /-- By the words after `--`. -/
  | rest
  | help
  | version
  deriving DecidableEq, Repr

structure Argument where
  name : String
  form : Form
  /-- The letter that it can be given by instead of the name. -/
  letter : Option Char := none
  kind : ValueKind := .text
  /-- What help calls its value. -/
  valueName : String := ""
  required : Bool := false
  default : Option String := none
  help : String := ""
  deriving DecidableEq, Repr

namespace Argument

def isNamed (a : Argument) : Bool :=
  a.form ≠ .words && a.form ≠ .rest

def takesValue (a : Argument) : Bool :=
  a.form = .option || a.form = .options || a.form = .words || a.form = .rest

def isSingle (a : Argument) : Bool :=
  a.form = .flag || a.form = .option

end Argument

structure CommandSpec where
  name : String
  about : String
  arguments : List Argument
  deriving DecidableEq, Repr

namespace CommandSpec

def named? (c : CommandSpec) (name : String) : Option Argument :=
  c.arguments.find? fun a => a.isNamed && a.name = name

def ofLetter? (c : CommandSpec) (letter : Char) : Option Argument :=
  c.arguments.find? (·.letter = some letter)

def ofForm? (c : CommandSpec) (f : Form) : Option Argument :=
  c.arguments.find? (·.form = f)

end CommandSpec

inductive UsageError where
  | unknownArgument
  | unknownCommand
  /-- No value, an empty path, or none of the choices. -/
  | invalidValue
  | unreadableValue
  | repeated
  | unexpectedValue
  | missingArgument
  | missingCommand
  | nothingGiven
  /-- Help is asked for, on a command if one is named. -/
  | helpAsked (command : Option String)
  | versionAsked
  deriving DecidableEq, Repr

def ValueKind.check (k : ValueKind) (s : String) : Except UsageError Unit :=
  match k with
  | text => .ok ()
  | path => if s.isEmpty then .error .invalidValue else .ok ()
  | number =>
    if (Numeral.signedRead? Numeral.max64 s.toList).isSome then .ok () else .error .unreadableValue
  | choice names => if names.contains s then .ok () else .error .invalidValue

end WebTestbed.CommandLine
