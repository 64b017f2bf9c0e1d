import WebTestbed.Text.Cut
import WebTestbed.Text.Numeral
import WebTestbed.Text.Utf8

/-! Texts with escapes, and formats that arguments are put into. -/
namespace WebTestbed.Shell

def digitIn? (base : Nat) (c : Char) : Option Nat :=
  let v := if c.isDigit then c.toNat - '0'.toNat
    else if 'a' ≤ c.toLower && c.toLower ≤ 'f' then c.toLower.toNat - 'a'.toNat + 10
    else 16
  if v < base then some v else none

def leadingNumber (base most : Nat) (s : List Char) : Nat × List Char :=
  let digits := (s.take most).takeWhile fun c => (digitIn? base c).isSome
  (digits.foldl (fun n c => base * n + (digitIn? base c).getD 0) 0, s.drop digits.length)

/-- The bytes of an escape after its backslash, and what follows it. The program that is a file of
its own also reads bytes in hexadecimal. -/
def escapeBytes (inShell : Bool) (s : List Char) : Bytes × List Char :=
  match s with
  | 'n' :: r => ([10], r)
  | 't' :: r => ([9], r)
  | 'r' :: r => ([13], r)
  | 'a' :: r => ([7], r)
  | 'b' :: r => ([8], r)
  | 'e' :: r => ([27], r)
  | 'f' :: r => ([12], r)
  | 'v' :: r => ([11], r)
  | '\\' :: r => ([92], r)
  | c :: r =>
    if (digitIn? 8 c).isSome then
      let (n, r) := leadingNumber 8 3 (c :: r)
      ([UInt8.ofNat n], r)
    else if c = 'x' && !inShell && (r.head?.bind (digitIn? 16)).isSome then
      let (n, r) := leadingNumber 16 2 r
      ([UInt8.ofNat n], r)
    else if c = '"' && !inShell then ([34], r)
    else (92 :: Utf8.encodeChars [c], r)
  | [] => ([92], [])

/-- The bytes of a text with escapes, of which one may end all output; whether it does not. -/
def unescape (inShell : Bool) : Nat → List Char → Bytes × Bool
  | 0, _ => ([], true)
  | fuel + 1, s =>
    let add (bytes : Bytes) (r : List Char) : Bytes × Bool :=
      let (more, goesOn) := unescape inShell fuel r
      (bytes ++ more, goesOn)
    match s with
    | [] => ([], true)
    | '\\' :: 'c' :: _ => ([], false)
    | '\\' :: '0' :: r =>
      let (n, r) := leadingNumber 8 3 r
      add [UInt8.ofNat n] r
    | '\\' :: r =>
      let (bytes, r) := escapeBytes inShell r
      add bytes r
    | c :: r => add (Utf8.encodeChars [c]) r

inductive FormatFault where
  | notNumeric (s : String)
  | partlyNumeric (s : String)
  | directive (s : String)
  | noDirective
  deriving DecidableEq, Repr

def FormatFault.isFatal : FormatFault → Bool
  | notNumeric _ | partlyNumeric _ => false
  | directive _ | noDirective => true

def FormatFault.shellMessage : FormatFault → String
  | notNumeric s => s ++ ": expected numeric value"
  | partlyNumeric s => s ++ ": not completely converted"
  | directive s => s ++ ": invalid directive"
  | noDirective => "missing format character"

def FormatFault.message : FormatFault → String
  | notNumeric s => "'" ++ s ++ "': expected a numeric value"
  | partlyNumeric s => "'" ++ s ++ "': value not completely converted"
  | directive s => s ++ ": invalid conversion specification"
  | noDirective => "%: invalid conversion specification"

def readInteger (s : String) : Int × Option FormatFault :=
  let magnitude (s : List Char) : Nat × List Char :=
    match s with
    | '0' :: 'x' :: r | '0' :: 'X' :: r => leadingNumber 16 r.length r
    | '0' :: r => leadingNumber 8 r.length r
    | r => leadingNumber 10 r.length r
  let finish (sign : Int) (digits : List Char) : Int × Option FormatFault :=
    let (n, rest) := magnitude digits
    if !(digits.head?.map Char.isDigit).getD false then (0, some (.notNumeric s))
    else (sign * n, if rest.isEmpty then none else some (.partlyNumeric s))
  match s.toList with
  | [] => (0, none)
  | '\'' :: c :: _ | '"' :: c :: _ => (c.toNat, none)
  | '-' :: r => finish (-1) r
  | '+' :: r => finish 1 r
  | r => finish 1 (r.dropWhile (· = ' '))

structure Field where
  leftAligned : Bool := false
  zeroPadded : Bool := false
  signed : Bool := false
  spaced : Bool := false
  marked : Bool := false
  width : Nat := 0
  precision : Option Nat := none

def readFlags (f : Field) : List Char → Field × List Char
  | '-' :: r => readFlags { f with leftAligned := true } r
  | '0' :: r => readFlags { f with zeroPadded := true } r
  | '+' :: r => readFlags { f with signed := true } r
  | ' ' :: r => readFlags { f with spaced := true } r
  | '#' :: r => readFlags { f with marked := true } r
  | r => (f, r)

def readField (s : List Char) : Field × List Char :=
  let (f, r) := readFlags {} s
  let (width, r) := leadingNumber 10 r.length r
  match r with
  | '.' :: r =>
    let (p, r) := leadingNumber 10 r.length r
    ({ f with width := width, precision := some p }, r)
  | r => ({ f with width := width }, r)

def Field.fill (f : Field) (bytes : Bytes) : Bytes :=
  let gap := f.width - bytes.length
  if f.leftAligned then bytes ++ List.replicate gap 32 else List.replicate gap 32 ++ bytes

def Field.digits (f : Field) (sign digits : List Char) : Bytes :=
  let digits := List.replicate (f.precision.getD 0 - digits.length) '0' ++ digits
  let gap := f.width - digits.length - sign.length
  if f.zeroPadded && !f.leftAligned && f.precision.isNone then
    Utf8.encodeChars (sign ++ List.replicate gap '0' ++ digits)
  else f.fill (Utf8.encodeChars (sign ++ digits))

def Field.integer (f : Field) (n : Int) : Bytes :=
  let sign := if n < 0 then ['-'] else if f.signed then ['+'] else if f.spaced then [' '] else []
  f.digits sign (Nat.toDigits 10 n.natAbs)

/-- A number by its last 64 bits, in a base that a mark may show. -/
def Field.bits (f : Field) (base : Nat) (mark : List Char) (n : Int) : Bytes :=
  let n := (n % Int.pow 2 64).toNat
  f.digits (if f.marked && n ≠ 0 then mark else []) (Nat.toDigits base n)

structure Formatted where
  bytes : List Bytes := []
  rest : List String
  faults : List FormatFault := []
  stopped : Bool := false
  used : Bool := false

namespace Formatted

def put (st : Formatted) (bytes : Bytes) : Formatted :=
  { st with bytes := bytes :: st.bytes }

def stop (st : Formatted) (e : FormatFault) : Formatted :=
  { st with faults := e :: st.faults, stopped := true }

def next (st : Formatted) : Formatted :=
  { st with rest := st.rest.tail, used := true }

def putNumber (st : Formatted) (arg : String) (write : Int → Bytes) : Formatted :=
  let (n, fault) := readInteger arg
  { st.put (write n) with faults := fault.toList ++ st.faults }

end Formatted

def capitals (bytes : Bytes) : Bytes :=
  bytes.map fun b => if 97 ≤ b && b ≤ 122 then b - 32 else b

/-- Goes through a format once; arguments that are missing are empty. -/
def formatOnce (inShell : Bool) : Nat → Formatted → List Char → Formatted
  | 0, st, _ => st
  | fuel + 1, st, s =>
    let go (st : Formatted) (r : List Char) : Formatted := formatOnce inShell fuel st r
    match s with
    | [] => st
    | '\\' :: 'c' :: r =>
      if inShell then go (st.put [92, 99]) r else { st with stopped := true }
    | '\\' :: r =>
      let (bytes, r) := escapeBytes inShell r
      go (st.put bytes) r
    | '%' :: '%' :: r => go (st.put [37]) r
    | '%' :: r =>
      let (f, r') := readField r
      let arg := st.rest.headD ""
      let next := st.next
      match r' with
      | 's' :: r =>
        let bytes := Utf8.encode arg
        go (next.put (f.fill (bytes.take (f.precision.getD bytes.length)))) r
      | 'b' :: r =>
        let (bytes, goesOn) := unescape inShell (arg.length + 1) arg.toList
        let next := next.put (f.fill bytes)
        if goesOn then go next r else { next with stopped := true }
      | 'c' :: r => go (next.put (f.fill ((Utf8.encode arg).take 1))) r
      | 'd' :: r | 'i' :: r => go (next.putNumber arg f.integer) r
      | 'u' :: r => go (next.putNumber arg (f.bits 10 [])) r
      | 'o' :: r => go (next.putNumber arg (f.bits 8 ['0'])) r
      | 'x' :: r => go (next.putNumber arg (f.bits 16 ['0', 'x'])) r
      | 'X' :: r => go (next.putNumber arg fun n => capitals (f.bits 16 ['0', 'x'] n)) r
      | [] => st.stop .noDirective
      | _ :: r => st.stop (.directive (String.ofList (s.take (s.length - r.length))))
    | c :: r => go (st.put (Utf8.encodeChars [c])) r

def formatAll (inShell : Bool) (format : List Char) : Nat → Formatted → Formatted
  | 0, st => st
  | fuel + 1, st =>
    let st := formatOnce inShell (format.length + 1) { st with used := false } format
    if st.stopped || st.rest.isEmpty || !st.used then st else formatAll inShell format fuel st

end WebTestbed.Shell
