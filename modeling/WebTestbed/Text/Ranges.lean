import WebTestbed.Text.Cut

/-! Sets of code points, written as ranges in hexadecimal. -/
namespace WebTestbed.Text

/-- Whether a number is in one of the ranges, which ascend; both ends belong to a range. -/
def inRanges (ranges : Array (Nat × Nat)) (n : Nat) : Bool :=
  ranges.any fun r => r.1 ≤ n && n ≤ r.2

structure Ranges where
  pairs : Array (Nat × Nat)

namespace Ranges

def digit (c : Char) : Nat :=
  if c.isDigit then c.toNat - '0'.toNat
  else if 'A' ≤ c && c ≤ 'F' then c.toNat - 'A'.toNat + 10
  else 0

def number (s : List Char) : Nat :=
  s.foldl (fun n c => 16 * n + digit c) 0

/-- Reads a range: one number, or its two ends with a hyphen between them. -/
def ofRange (s : List Char) : Nat × Nat :=
  match cut '-' s with
  | none => (number s, number s)
  | some (a, b) => (number a, number b)

def ofStrings (lines : List String) : Ranges :=
  ⟨(lines.flatMap fun l => (pieces ' ' l.toList).map ofRange).toArray⟩

def contains (r : Ranges) (n : Nat) : Bool :=
  inRanges r.pairs n

end WebTestbed.Text.Ranges
