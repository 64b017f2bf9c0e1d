/-! Decimal numerals. -/
namespace WebTestbed.Numeral

def digitValue (c : Char) : Nat :=
  c.toNat - '0'.toNat

def value (s : List Char) : Nat :=
  s.foldl (fun n c => 10 * n + digitValue c) 0

def read? (s : List Char) : Option Nat :=
  if s.isEmpty || !s.all Char.isDigit then none else some (value s)

/-- Reads a run of digits, which a plus sign may precede, up to the given limit. -/
def signedRead? (limit : Nat) (s : List Char) : Option Nat :=
  let digits := match s with
    | '+' :: r => r
    | r => r
  (read? digits).filter (· ≤ limit)

def write (n : Nat) : List Char :=
  Nat.toDigits 10 n

def max64 : Nat := Nat.pow 2 64 - 1

end WebTestbed.Numeral
