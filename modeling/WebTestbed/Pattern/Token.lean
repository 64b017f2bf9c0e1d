import WebTestbed.Pattern.Basic
import WebTestbed.Text.Numeral

/-! The pieces that patterns are written with. -/
namespace WebTestbed.Pattern

/-- How characters are read: whether in any case, and whether a dot is also a line feed. -/
structure Mode where
  anyCase : Bool := false
  dotAll : Bool := false
  deriving DecidableEq, Repr

inductive Token where
  | set (s : CharSet)
  | dot
  | anchor (a : Anchor)
  | repetition (least : Nat) (most : Option Nat)
  | bar
  | opening (change : Mode → Mode)
  | closing
  | mode (change : Mode → Mode)

namespace Token

inductive Escape where
  | char (c : Char)
  | set (s : CharSet)
  | anchor (a : Anchor)

def escape? (c : Char) : Option Escape :=
  match c with
  | 'd' => some (.set .digit)
  | 'D' => some (.set (.complement .digit))
  | 'w' => some (.set .word)
  | 'W' => some (.set (.complement .word))
  | 's' => some (.set .blank)
  | 'S' => some (.set (.complement .blank))
  | 'b' => some (.anchor .wordEdge)
  | 'B' => some (.anchor .notWordEdge)
  | 'A' => some (.anchor .lineStart)
  | 'z' => some (.anchor .lineEnd)
  | 'n' => some (.char '\n')
  | 'r' => some (.char '\r')
  | 't' => some (.char '\t')
  | 'f' => some (.char '\x0C')
  | 'v' => some (.char '\x0B')
  | 'a' => some (.char '\x07')
  | c => if c.toNat < 128 && !c.isAlphanum && c ≠ '<' && c ≠ '>' then some (.char c) else none

/-- A character of a class, or a set of which the class takes all. -/
def classItem? : List Char → Option (Escape × List Char)
  | '\\' :: c :: r => (escape? c).map (·, r)
  | '\\' :: [] | '[' :: _ | [] => none
  | c :: r => some (.char c, r)

/-- What is left of a class after its first items, whose union is `s`. -/
def classFrom (s : CharSet) (text : List Char) : Option (CharSet × List Char) :=
  if text.head? = some ']' then some (s, text.tail)
  else do
    let (item, r) ← classItem? text
    let (t, r) ← match item, r with
      | .anchor _, _ => none
      | .set t, r => some (t, r)
      | .char c, '-' :: ']' :: r => some (.only c, '-' :: ']' :: r)
      | .char c, '-' :: r =>
        match classItem? r with
        | some (.char d, r) => if c ≤ d then some (.range c d false, r) else none
        | _ => none
      | .char c, r => some (.only c, r)
    if r.length < text.length then classFrom (.union s t) r else none
termination_by text.length

def classItems? : List Char → Option (CharSet × List Char)
  | ']' :: r => classFrom (.only ']') r
  | r => classFrom .none r

def class? : List Char → Option (CharSet × List Char)
  | '^' :: r => (classItems? r).map fun p => (.complement p.1, p.2)
  | r => classItems? r

def modeLetter? (on : Bool) (c : Char) : Option (Mode → Mode) :=
  match c with
  | 'i' => some ({ · with anyCase := on })
  | 's' => some ({ · with dotAll := on })
  | 'm' | 'U' => some id
  | 'u' => if on then some id else none
  | _ => none

def modeFrom (on : Bool) (change : Mode → Mode) : List Char → Option (Token × List Char)
  | ')' :: r => some (.mode change, r)
  | ':' :: r => some (.opening change, r)
  | '-' :: r => if on then modeFrom false change r else none
  | c :: r => do modeFrom on ((← modeLetter? on c) ∘ change) r
  | [] => none

def group? : List Char → Option (Token × List Char)
  | '?' :: 'P' :: '<' :: r | '?' :: '<' :: r => do
    let (_, r) ← Text.cut '>' r
    return (.opening id, r)
  | '?' :: r => modeFrom true id r
  | r => some (.opening id, r)

/-- A question mark after a repetition asks for the shortest text, which does not change whether
there is one. -/
def skipLazy : List Char → List Char
  | '?' :: r => r
  | r => r

def bounds? (s : List Char) : Option Token :=
  match Text.cut ',' s with
  | none => (Numeral.read? s).map fun n => .repetition n (some n)
  | some (a, []) => (Numeral.read? a).map (.repetition · none)
  | some (a, b) => do
    let least ← Numeral.read? a
    let most ← Numeral.read? b
    if least ≤ most then some (.repetition least (some most)) else none

def read? : List Char → Option (Token × List Char)
  | '\\' :: c :: r => (escape? c).map fun
    | .char d => (.set (.only d), r)
    | .set s => (.set s, r)
    | .anchor a => (.anchor a, r)
  | '\\' :: [] | [] => none
  | '.' :: r => some (.dot, r)
  | '^' :: r => some (.anchor .lineStart, r)
  | '$' :: r => some (.anchor .lineEnd, r)
  | '|' :: r => some (.bar, r)
  | ')' :: r => some (.closing, r)
  | '*' :: r => some (.repetition 0 none, skipLazy r)
  | '+' :: r => some (.repetition 1 none, skipLazy r)
  | '?' :: r => some (.repetition 0 (some 1), skipLazy r)
  | '{' :: r => do
    let (inside, r) ← Text.cut '}' r
    return (← bounds? inside, skipLazy r)
  | '[' :: r => (class? r).map fun p => (.set p.1, p.2)
  | '(' :: r => group? r
  | c :: r => some (.set (.only c), r)

def readAll? (text : List Char) : Option (List Token) :=
  if text.isEmpty then some []
  else do
    let (t, r) ← read? text
    if r.length < text.length then return t :: (← readAll? r) else none
termination_by text.length

end WebTestbed.Pattern.Token
