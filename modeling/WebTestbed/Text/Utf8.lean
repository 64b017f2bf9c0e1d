/-! UTF-8: encoding, strict decoding, and decoding that puts U+FFFD for what is not UTF-8. -/
namespace WebTestbed

abbrev Bytes := List UInt8

namespace Utf8

/-- What a replacement stands for: the longest start of a sequence that could still be completed. -/
def replacement : Char := '\uFFFD'

def isTail (b : UInt8) : Bool := 0x80 ≤ b && b ≤ 0xBF

/-- How many bytes follow the lead byte, and the range the first of them is in. -/
def follow (lead : UInt8) : Option (Nat × UInt8 × UInt8) :=
  if lead ≤ 0x7F then some (0, 0x80, 0xBF)
  else if lead ≤ 0xC1 then none
  else if lead ≤ 0xDF then some (1, 0x80, 0xBF)
  else if lead = 0xE0 then some (2, 0xA0, 0xBF)
  else if lead = 0xED then some (2, 0x80, 0x9F)
  else if lead ≤ 0xEF then some (2, 0x80, 0xBF)
  else if lead = 0xF0 then some (3, 0x90, 0xBF)
  else if lead ≤ 0xF3 then some (3, 0x80, 0xBF)
  else if lead = 0xF4 then some (3, 0x80, 0x8F)
  else none

/-- The bytes that follow the lead byte and fit it, at most `n`; `lo` and `hi` bound the next. -/
def tails : Nat → UInt8 → UInt8 → Bytes → Bytes
  | 0, _, _, _ => []
  | _, _, _, [] => []
  | n + 1, lo, hi, b :: r => if lo ≤ b && b ≤ hi then b :: tails n 0x80 0xBF r else []

def codePoint (lead : UInt8) (rest : Bytes) : Nat :=
  let top := match rest.length with
    | 0 => lead.toNat
    | 1 => lead.toNat - 0xC0
    | 2 => lead.toNat - 0xE0
    | _ => lead.toNat - 0xF0
  rest.foldl (fun n b => 64 * n + (b.toNat - 0x80)) top

/-- Reads one character: the character, if the bytes make one, and how many bytes after the lead
byte it took. -/
def next (lead : UInt8) (r : Bytes) : Option Char × Nat :=
  match follow lead with
  | none => (none, 0)
  | some (n, lo, hi) =>
    let t := tails n lo hi r
    (if t.length = n then some (Char.ofNat (codePoint lead t)) else none, t.length)

def lossyFrom : Nat → Bytes → List Char
  | _, [] => []
  | k + 1, _ :: r => lossyFrom k r
  | 0, b :: r => (next b r).1.getD replacement :: lossyFrom (next b r).2 r

/-- Decodes; each maximal part that is not UTF-8 becomes one U+FFFD. -/
def lossy (bs : Bytes) : List Char :=
  lossyFrom 0 bs

def decodeFrom? : Nat → Bytes → Option (List Char)
  | _, [] => some []
  | k + 1, _ :: r => decodeFrom? k r
  | 0, b :: r => do
    let c ← (next b r).1
    let s ← decodeFrom? (next b r).2 r
    return c :: s

def decode? (bs : Bytes) : Option (List Char) :=
  decodeFrom? 0 bs

def encodeChars (s : List Char) : Bytes :=
  s.flatMap String.utf8EncodeChar

def encode (s : String) : Bytes :=
  encodeChars s.toList

def lossyString (bs : Bytes) : String :=
  String.ofList (lossy bs)

end WebTestbed.Utf8
