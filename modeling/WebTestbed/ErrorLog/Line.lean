import WebTestbed.Pattern.Reader

/-! Lines of an error log. A tag such as `[ssl:warn]` names the module that wrote a line and says
how bad it is; a number such as `AH01909` may say what it is about. -/
namespace WebTestbed.ErrorLog

inductive Severity where
  | error
  | warning
  deriving DecidableEq, Repr

structure Tag where
  module : String
  severity : Severity
  deriving DecidableEq, Repr

def isTagMark (c : Char) : Bool :=
  c = ':' || c = '[' || c = ']'

def severity? : List Char → Option (Severity × List Char)
  | 'e' :: 'r' :: 'r' :: 'o' :: 'r' :: ']' :: r => some (.error, r)
  | 'w' :: 'a' :: 'r' :: 'n' :: ']' :: r => some (.warning, r)
  | _ => none

def tagAfter? (s : List Char) : Option (Tag × List Char) :=
  let name := s.takeWhile (!isTagMark ·)
  match name, s.dropWhile (!isTagMark ·) with
  | _ :: _, ':' :: r => (severity? r).map fun p => (⟨String.ofList name, p.1⟩, p.2)
  | _, _ => none

def tag? : List Char → Option (Tag × List Char)
  | [] => none
  | c :: r => if c = '[' then (tagAfter? r).or (tag? r) else tag? r

/-- The number that the text starts with, after a space; a colon, a space and more follow it. -/
def numberAt? : List Char → Option (List Char)
  | ' ' :: 'A' :: 'H' :: r =>
    match r.takeWhile Text.isAnyDigit, r.dropWhile Text.isAnyDigit with
    | d :: ds, ':' :: ' ' :: _ :: _ => some ('A' :: 'H' :: d :: ds)
    | _, _ => none
  | _ => none

def lastNumber? : List Char → Option (List Char)
  | [] => none
  | c :: r => (lastNumber? r).or (numberAt? (c :: r))

/-- The number of a line: the last one after its first tag. -/
def number? (line : String) : Option String := do
  let (_, r) ← tag? line.toList
  return String.ofList (← lastNumber? r)

/-- What is not reported: lines of the modules, lines with one of the numbers, and lines in which
one of the patterns occurs. -/
structure Ignored where
  modules : List String := []
  numbers : List String := []
  patterns : List Pattern := []
  deriving DecidableEq, Repr

namespace Ignored

def hides (i : Ignored) (line : String) : Bool :=
  i.patterns.any (·.occursIn line) || (number? line).any i.numbers.contains

def classify (i : Ignored) (line : String) : Option Severity :=
  if i.hides line then none
  else match tag? line.toList with
    | none => none
    | some (t, _) => if i.modules.contains t.module then none else some t.severity

end WebTestbed.ErrorLog.Ignored
