import WebTestbed.Text.Blank
import WebTestbed.Text.Folding
import WebTestbed.Text.Word

/-! Patterns, and the search for them in a line of text. -/
namespace WebTestbed

inductive CharSet where
  | none
  | range (first last : Char) (anyCase : Bool)
  | digit
  | word
  | blank
  | union (s t : CharSet)
  | complement (s : CharSet)
  deriving DecidableEq, Repr

namespace CharSet

def only (c : Char) : CharSet :=
  range c c false

def notNewline : CharSet :=
  complement (only '\n')

def inRange (first last c : Char) : Bool :=
  first ≤ c && c ≤ last

def contains (c : Char) : CharSet → Bool
  | none => false
  | range first last false => inRange first last c
  | range first last true => inRange first last c || (Text.caseVariants c).any (inRange first last)
  | digit => Text.isAnyDigit c
  | word => Text.isWordChar c
  | blank => Text.isBlank c
  | union s t => contains c s || contains c t
  | complement s => !contains c s

/-- The set with its ranges taken in any case. -/
def inAnyCase : CharSet → CharSet
  | range first last _ => range first last true
  | union s t => union s.inAnyCase t.inAnyCase
  | complement s => complement s.inAnyCase
  | s => s

end CharSet

inductive Anchor where
  | lineStart
  | lineEnd
  | wordEdge
  | notWordEdge
  deriving DecidableEq, Repr

def Anchor.holds (a : Anchor) (before after : Option Char) : Bool :=
  let edge := before.any Text.isWordChar != after.any Text.isWordChar
  match a with
  | lineStart => before.isNone
  | lineEnd => after.isNone
  | wordEdge => edge
  | notWordEdge => !edge

inductive Pattern where
  | empty
  | one (s : CharSet)
  | anchor (a : Anchor)
  | seq (p q : Pattern)
  | alt (p q : Pattern)
  | many (p : Pattern)
  deriving DecidableEq, Repr

namespace Pattern

def times (p : Pattern) : Nat → Pattern
  | 0 => empty
  | n + 1 => seq p (times p n)

def upTo (p : Pattern) : Nat → Pattern
  | 0 => empty
  | n + 1 => alt empty (seq p (upTo p n))

def repeated (p : Pattern) (least : Nat) : Option Nat → Pattern
  | none => seq (p.times least) (many p)
  | some most => seq (p.times least) (p.upTo (most - least))

/-! A set of places in a line is a number: its bit `i` is set if the place before the character `i`
is in the set. -/

/-- The places at which a list has elements that pass. -/
def placesOf (f : α → Bool) : List α → Nat
  | [] => 0
  | a :: r => 2 * placesOf f r + (f a).toNat

def neighbours (before : Option Char) : List Char → List (Option Char × Option Char)
  | [] => [(before, none)]
  | c :: r => (before, some c) :: neighbours (some c) r

/-- Repeats a step from a set of places until no new place is reached, or `n` times. -/
def closure (step : Nat → Nat) : Nat → Nat → Nat
  | 0, places => places
  | n + 1, places =>
    let more := places ||| step places
    if more = places then places else closure step n more

/-- Where the pattern can end if it starts at one of the places. -/
def ends (line : List Char) : Pattern → Nat → Nat
  | empty, places => places
  | one s, places => (places &&& placesOf (CharSet.contains · s) line) <<< 1
  | anchor a, places => places &&& placesOf (fun p => a.holds p.1 p.2) (neighbours none line)
  | seq p q, places => ends line q (ends line p places)
  | alt p q, places => ends line p places ||| ends line q places
  | many p, places => closure (ends line p) (line.length + 1) places

def occursIn (p : Pattern) (line : String) : Bool :=
  p.ends line.toList (Nat.pow 2 (line.toList.length + 1) - 1) ≠ 0

end WebTestbed.Pattern
