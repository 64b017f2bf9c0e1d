/-! Shell scripts: words with what is put into them, and commands. -/
namespace WebTestbed.Shell

inductive Choice where
  | otherwise
  /-- The same, and the parameter takes the word as its value. -/
  | assign
  | ifSet
  /-- The word is what to complain about if there is no value. -/
  | required
  | dropStart
  | dropEnd
  | dropLongStart
  | dropLongEnd
  deriving DecidableEq, Repr

/-- What a part of a word stands for. The texts of scripts and words inside it are read later. -/
inductive Piece where
  | text (s : String)
  | param (name : String)
  | size (name : String)
  | choice (name : String) (c : Choice) (emptyToo : Bool) (word : String)
  | output (script : String)
  | formula (text : String)
  | unknown
  deriving DecidableEq, Repr

structure Part where
  piece : Piece
  quoted : Bool
  deriving DecidableEq, Repr

abbrev Word := List Part

inductive Source where
  | read (path : Word)
  | write (path : Word)
  | append (path : Word)
  | same (descriptor : Word)
  | content (body : Word)
  deriving DecidableEq, Repr

structure Redirect where
  descriptor : Nat
  source : Source
  deriving DecidableEq, Repr

inductive SyntaxError where
  | openQuote
  | openBrace
  | openFormula
  | openBackquote
  | loopVariable
  /-- What does not fit where it stands, and what would. -/
  | unexpected (what : String) (wanted : Option String)
  deriving DecidableEq, Repr

def SyntaxError.message : SyntaxError → String
  | openQuote => "Unterminated quoted string"
  | openBrace => "Missing '\x7d'"
  | openFormula => "Missing '))'"
  | openBackquote => "EOF in backquote substitution"
  | loopVariable => "Bad for loop variable"
  | unexpected what wanted =>
    what ++ " unexpected" ++ ((wanted.map fun s => " (expecting " ++ s ++ ")").getD "")

inductive Command where
  | call (line : Nat) (assignments : List (String × Word)) (words : List Word)
      (redirects : List Redirect)
  | nothing
  | seq (c d : Command)
  | both (c d : Command)
  | either (c d : Command)
  | not (c : Command)
  | pipe (c d : Command)
  | background (c : Command)
  | branch (test c d : Command)
  /-- A loop that goes on while its test succeeds, or until it does. -/
  | loop (untilDone : Bool) (test body : Command)
  | forEach (name : String) (words : Option (List Word)) (body : Command)
  | select (word : Word) (cases : List (List Word × Command))
  | subshell (c : Command)
  | redirected (c : Command) (redirects : List Redirect)
  | define (name : String) (body : Command)

/-- A script: the commands before the first thing that cannot be read, and what that is. -/
structure Script where
  commands : List Command
  error : Option (Nat × SyntaxError)

end WebTestbed.Shell
