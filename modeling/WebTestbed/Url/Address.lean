import WebTestbed.Json.Reader
import WebTestbed.Text.Cut
import WebTestbed.Text.Numeral

/-! Internet addresses in URLs. -/
namespace WebTestbed

namespace Ipv4

def readDigits? (base : Nat) (s : List Char) : Option Nat :=
  s.foldlM (fun n c => do
    let d ← Json.hexValue? c
    if d < base then some (base * n + d) else none) 0

/-- Reads a part of an address: hexadecimal after `0x`, octal after `0`, and decimal otherwise. -/
def readPart? : List Char → Option Nat
  | [] => none
  | '0' :: 'x' :: r => readDigits? 16 r
  | '0' :: 'X' :: r => readDigits? 16 r
  | '0' :: r => readDigits? 8 r
  | s => readDigits? 10 s

def parts (s : List Char) : List (List Char) :=
  let l := Text.pieces '.' s
  if l.getLast? = some [] then l.dropLast else l

def endsInNumber (s : List Char) : Bool :=
  match (parts s).getLast? with
  | none => false
  | some last => (!last.isEmpty && last.all Char.isDigit) || (readPart? last).isSome

/-- The address of numbers of which the last fills the bytes that the others leave. -/
def ofNumbers? (first : List Nat) (last : Nat) : Option Nat :=
  if 3 < first.length || first.any (255 < ·) || Nat.pow 256 (4 - first.length) ≤ last then none
  else some (first.foldl (fun n k => 256 * n + k) 0 * Nat.pow 256 (4 - first.length) + last)

def read? (s : List Char) : Option Nat := do
  match (← (parts s).mapM readPart?).reverse with
  | [] => none
  | last :: first => ofNumbers? first.reverse last

def write (n : Nat) : String :=
  Text.joinWith "." ([16777216, 65536, 256, 1].map fun k => toString (n / k % 256))

end Ipv4

namespace Ipv6

def readGroup? (s : List Char) : Option Nat :=
  if s.isEmpty || 4 < s.length then none else Ipv4.readDigits? 16 s

def readByte? (s : List Char) : Option Nat := do
  let n ← Numeral.read? s
  if 255 < n || (1 < s.length && s.head? = some '0') then none else some n

def readTail? (s : List Char) : Option (List Nat) := do
  match ← (Text.pieces '.' s).mapM readByte? with
  | [a, b, c, d] => some [256 * a + b, 256 * c + d]
  | _ => none

def readGroups? (l : List (List Char)) : Option (List Nat) :=
  match l with
  | [] => some []
  | [s] => if s.contains '.' then readTail? s else (readGroup? s).map ([·])
  | s :: r => do
    let n ← readGroup? s
    let ns ← readGroups? r
    return n :: ns

def readSide? (s : List Char) : Option (List Nat) :=
  if s.isEmpty then some [] else readGroups? (Text.pieces ':' s)

def cutGap? : List Char → Option (List Char × List Char)
  | ':' :: ':' :: r => some ([], r)
  | c :: r => (cutGap? r).map fun p => (c :: p.1, p.2)
  | [] => none

/-- Reads the eight groups of an address. Two colons stand for as many zeros as are missing, at
least one. -/
def read? (s : List Char) : Option (List Nat) :=
  match cutGap? s with
  | none => (readSide? s).filter (·.length = 8)
  | some (a, b) => do
    let left ← readSide? a
    let right ← readSide? b
    let count := left.length + right.length
    if 7 < count || a.contains '.' then none
    else some (left ++ List.replicate (8 - count) 0 ++ right)

def longestRun (at_ : Nat) (best : Nat × Nat) (current : Nat × Nat) : List Nat → Nat × Nat
  | [] => best
  | n :: r =>
    let current :=
      if n = 0 then (if current.2 = 0 then (at_, 1) else (current.1, current.2 + 1)) else (0, 0)
    longestRun (at_ + 1) (if best.2 < current.2 then current else best) current r

def writeGroups (l : List Nat) : String :=
  Text.joinWith ":" (l.map fun n => String.ofList (Nat.toDigits 16 n))

/-- Writes an address. Its longest run of zeros, if it has one of two or more, is two colons. -/
def write (l : List Nat) : String :=
  let (start, count) := longestRun 0 (0, 0) (0, 0) l
  if count < 2 then writeGroups l
  else writeGroups (l.take start) ++ "::" ++ writeGroups (l.drop (start + count))

example : (read? "::ffff:1.2.3.4".toList).map write = some "::ffff:102:304" := by decide +kernel

end Ipv6

end WebTestbed
