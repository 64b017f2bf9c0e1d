import WebTestbed.CommandLine.Grammar
import WebTestbed.Text.Cut

/-! Reading the words of a command line. An argument takes effect when the word after its values is
read; so a mistake in that word that needs no look at the values is found first. -/
namespace WebTestbed.CommandLine

/-- The arguments that are given, by their names, with their values. -/
abbrev Given := List (String × List String)

namespace Given

def contains (g : Given) (name : String) : Bool :=
  g.any (·.1 = name)

def values (g : Given) (name : String) : List String :=
  (g.filter (·.1 = name)).flatMap (·.2)

def value? (g : Given) (name : String) : Option String :=
  (g.values name).head?

end Given

structure Reading where
  given : Given := []
  /-- The argument that has not taken effect yet, with its values. -/
  pending : Option (Argument × List String) := none
  /-- Whether `--` is behind. -/
  verbatim : Bool := false
  deriving DecidableEq, Repr

namespace Reading

def accept (r : Reading) (a : Argument) (values : List String) : Except UsageError Reading := do
  if a.takesValue && values.isEmpty then throw .invalidValue
  if a.isSingle && r.given.contains a.name then throw .repeated
  values.forM a.kind.check
  match a.form with
  | .help => throw (.helpAsked none)
  | .version => throw .versionAsked
  | _ => return { r with given := r.given ++ [(a.name, values)] }

def settle (r : Reading) : Except UsageError Reading :=
  match r.pending with
  | none => .ok r
  | some (a, values) => accept { r with pending := none } a values

def awaitsValue (r : Reading) : Bool :=
  match r.pending with
  | some (_, []) => true
  | _ => false

def readLong (c : CommandSpec) (r : Reading) (word : List Char) : Except UsageError Reading :=
  let (name, value) := match Text.cut '=' word with
    | some (name, value) => (name, some (String.ofList value))
    | none => (word, none)
  match c.named? (String.ofList name), value with
  | none, _ => .error .unknownArgument
  | some a, some v => if a.takesValue then do (← r.settle).accept a [v] else .error .unexpectedValue
  | some a, none =>
    if a.takesValue then do return { ← r.settle with pending := some (a, []) }
    else do (← r.settle).accept a []

def readLetters (c : CommandSpec) (r : Reading) : List Char → Except UsageError Reading
  | [] => .ok r
  | letter :: rest =>
    match c.ofLetter? letter with
    | none => .error .unknownArgument
    | some a => do readLetters c (← (← r.settle).accept a []) rest

def readPlain (r : Reading) (a : Argument) (word : String) : Except UsageError Reading :=
  match r.pending with
  | some (b, values) =>
    if a = b then .ok { r with pending := some (a, values ++ [word]) }
    else do return { ← r.settle with pending := some (a, [word]) }
  | none => .ok { r with pending := some (a, [word]) }

end Reading

def helpOn (commands : List CommandSpec) : List String → UsageError
  | [] => .helpAsked none
  | [name] =>
    if name = "help" || commands.any (·.name = name) then .helpAsked (some name)
    else .unknownCommand
  | _ => .unknownCommand

def strayWord (commands : List CommandSpec) (r : Reading) (word : String) : UsageError :=
  if commands.isEmpty then .unknownArgument
  else if r.verbatim && (word = "help" || commands.any (·.name = word)) then .unknownArgument
  else .unknownCommand

def readWords (c : CommandSpec) (commands : List CommandSpec) (r : Reading) :
    List String → Except UsageError (Reading × Option (CommandSpec × List String))
  | [] => .ok (r, none)
  | word :: rest =>
    let plain : Except UsageError Reading :=
      match c.ofForm? (if r.verbatim then .rest else .words) with
      | some a => r.readPlain a word
      | none => .error (strayWord commands r word)
    if r.verbatim then do readWords c commands (← plain) rest
    else match if r.awaitsValue then none else commands.find? (·.name = word) with
      | some command => .ok (r, some (command, rest))
      | none =>
        if word = "help" && !commands.isEmpty && !r.awaitsValue then .error (helpOn commands rest)
        else match word.toList, r.pending with
          | ['-', '-'], _ => readWords c commands { r with verbatim := true } rest
          | '-' :: '-' :: name, _ => do readWords c commands (← r.readLong c name) rest
          | '-' :: letter :: letters, _ => do
            readWords c commands (← r.readLetters c (letter :: letters)) rest
          | _, some (a, []) => readWords c commands { r with pending := some (a, [word]) } rest
          | _, _ => do readWords c commands (← plain) rest

/-- The command a request for help is about, if the words of a command ask for it. -/
def UsageError.about (name : String) : UsageError → UsageError
  | .helpAsked none => .helpAsked (some name)
  | e => e

def readCommand (c : CommandSpec) (words : List String) : Except UsageError Given := do
  let (r, _) ← readWords c [] {} words
  let r ← r.settle
  if c.arguments.any fun a => a.required && !r.given.contains a.name then throw .missingArgument
  return r.given

structure Call where
  given : Given
  command : String
  arguments : Given
  deriving DecidableEq, Repr

/-- Reads a command line without the name of the program. Mistakes in the words of the command come
before those that are pending when it starts. -/
def readCall (program : CommandSpec) (commands : List CommandSpec) (words : List String) :
    Except UsageError Call := do
  match ← readWords program commands {} words with
  | (r, some (c, rest)) =>
    let arguments ← (readCommand c rest).mapError (·.about c.name)
    return ⟨(← r.settle).given, c.name, arguments⟩
  | (r, none) =>
    if (← r.settle).given.isEmpty then throw .nothingGiven else throw .missingCommand

end WebTestbed.CommandLine
