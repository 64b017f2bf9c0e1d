import WebTestbed.Json.Number
import WebTestbed.Text.Utf8

/-! Reading JSON. Nesting is limited, and of two fields of one name the last counts. -/
namespace WebTestbed.Json

def maxDepth : Nat := 127

def isBlank (c : Char) : Bool :=
  c = ' ' || c = '\n' || c = '\t' || c = '\r'

def skipBlanks (s : List Char) : List Char :=
  s.dropWhile isBlank

def hexValue? (c : Char) : Option Nat :=
  if c.isDigit then some (c.toNat - '0'.toNat)
  else if 'a' ≤ c && c ≤ 'f' then some (c.toNat - 'a'.toNat + 10)
  else if 'A' ≤ c && c ≤ 'F' then some (c.toNat - 'A'.toNat + 10)
  else none

def readUnit (s : List Char) : Except ReadError (Nat × List Char) :=
  if (Utf8.encodeChars s).length < 4 then .error .tooShort
  else match (s.take 4).mapM hexValue? with
    | some [a, b, c, d] => .ok (4096 * a + 256 * b + 16 * c + d, s.drop 4)
    | _ => .error .malformed

/-- Reads an escaped code point after its letter; one above 0xFFFF takes two units. -/
def readCodePoint (s : List Char) : Except ReadError (Char × List Char) := do
  let (high, r) ← readUnit s
  if 0xDC00 ≤ high && high ≤ 0xDFFF then .error .malformed
  else if high < 0xD800 || 0xDBFF < high then .ok (Char.ofNat high, r)
  else match r with
    | [] => .error .tooShort
    | ['\\'] => .error .tooShort
    | '\\' :: 'u' :: r =>
      let (low, r) ← readUnit r
      if low < 0xDC00 || 0xDFFF < low then .error .malformed
      else .ok (Char.ofNat (0x10000 + 1024 * (high - 0xD800) + (low - 0xDC00)), r)
    | _ => .error .malformed

def escapes : List (Char × Char) :=
  [('"', '"'), ('\\', '\\'), ('/', '/'), ('b', '\x08'), ('f', '\x0c'), ('n', '\n'), ('r', '\r'),
    ('t', '\t')]

/-- Reads a string after its opening quote; `acc` is what is read, last character first. -/
def readString (fuel : Nat) (acc : List Char) (s : List Char) :
    Except ReadError (String × List Char) :=
  match fuel with
  | 0 => .error .tooShort
  | fuel + 1 => match s with
    | [] => .error .tooShort
    | '"' :: r => .ok (String.ofList acc.reverse, r)
    | ['\\'] => .error .tooShort
    | '\\' :: 'u' :: r => do
      let (c, r) ← readCodePoint r
      readString fuel (c :: acc) r
    | '\\' :: e :: r => match escapes.lookup e with
      | some c => readString fuel (c :: acc) r
      | none => .error .malformed
    | c :: r => if c.toNat < 0x20 then .error .malformed else readString fuel (c :: acc) r

def readWord (v : Value) : List Char → List Char → Except ReadError (Value × List Char)
  | [], s => .ok (v, s)
  | _ :: _, [] => .error .tooShort
  | w :: ws, c :: r => if c = w then readWord v ws r else .error .malformed

inductive Continuation where
  | more (rest : List Char)
  | done (rest : List Char)

def readContinuation (close : Char) (s : List Char) : Except ReadError Continuation :=
  match skipBlanks s with
  | [] => .error .tooShort
  | c :: r =>
    if c = close then .ok (.done r)
    else if c = ',' then match skipBlanks r with
      | [] => .error .tooShort
      | d :: r' => if d = close then .error .malformed else .ok (.more (d :: r'))
    else .error .malformed

mutual

/-- Reads a value, in which arrays and objects nest at most `depth` deep. -/
def readValue (fuel depth : Nat) (s : List Char) : Except ReadError (Value × List Char) :=
  match fuel with
  | 0 => .error .tooShort
  | fuel + 1 => match skipBlanks s with
    | [] => .error .tooShort
    | 'n' :: r => readWord .null ['u', 'l', 'l'] r
    | 't' :: r => readWord (.bool true) ['r', 'u', 'e'] r
    | 'f' :: r => readWord (.bool false) ['a', 'l', 's', 'e'] r
    | '"' :: r => do
      let (t, r) ← readString (r.length + 1) [] r
      .ok (.string t, r)
    | '[' :: r =>
      if depth = 0 then .error .malformed
      else match skipBlanks r with
        | [] => .error .tooShort
        | ']' :: r => .ok (.array [], r)
        | r => do
          let (items, r) ← readItems fuel (depth - 1) [] r
          .ok (.array items, r)
    | '\x7b' :: r =>
      if depth = 0 then .error .malformed
      else do
        let (fields, r) ← readObject fuel (depth - 1) (fun _ => true) r
        .ok (.object fields, r)
    | c :: r =>
      if c = '-' || c.isDigit then do
        let (n, r) ← readNumber (c :: r)
        .ok (.number n, r)
      else .error .malformed

def readItems (fuel depth : Nat) (acc : List Value) (s : List Char) :
    Except ReadError (List Value × List Char) :=
  match fuel with
  | 0 => .error .tooShort
  | fuel + 1 => do
    let (v, r) ← readValue fuel depth s
    match ← readContinuation ']' r with
    | .done r => .ok ((v :: acc).reverse, r)
    | .more r => readItems fuel depth (v :: acc) r

/-- Reads an object after its opening bracket. A field whose value `accept` refuses ends the
reading. -/
def readObject (fuel depth : Nat) (accept : Value → Bool) (s : List Char) :
    Except ReadError (Fields × List Char) :=
  match fuel with
  | 0 => .error .tooShort
  | fuel + 1 => match skipBlanks s with
    | [] => .error .tooShort
    | '\x7d' :: r => .ok ([], r)
    | r => readFields fuel depth accept [] r

def readFields (fuel depth : Nat) (accept : Value → Bool) (acc : Fields) (s : List Char) :
    Except ReadError (Fields × List Char) :=
  match fuel with
  | 0 => .error .tooShort
  | fuel + 1 => match s with
    | '"' :: r => do
      let (name, r) ← readString (r.length + 1) [] r
      match skipBlanks r with
      | [] => .error .tooShort
      | ':' :: r =>
        let (v, r) ← readValue fuel depth r
        if !accept v then .error .mismatched
        else match ← readContinuation '\x7d' r with
          | .done r => .ok (Fields.set name v acc, r)
          | .more r => readFields fuel depth accept (Fields.set name v acc) r
      | _ => .error .malformed
    | _ => .error .malformed

end

def fuelFor (s : List Char) : Nat :=
  2 * s.length + 2

def atEnd (v : α) (rest : List Char) : Except ReadError α :=
  if (skipBlanks rest).isEmpty then .ok v else .error .malformed

def read (s : List Char) : Except ReadError Value := do
  let (v, rest) ← readValue (fuelFor s) maxDepth s
  atEnd v rest

def read? (bs : Bytes) : Option Value :=
  (Utf8.decode? bs).bind fun s => (read s).toOption

def readObjectOf (accept : Value → Bool) (s : List Char) : Except ReadError Fields :=
  match skipBlanks s with
  | [] => .error .tooShort
  | '\x7b' :: r => do
    let (fields, rest) ← readObject (fuelFor r) (maxDepth - 1) accept r
    atEnd fields rest
  | '[' :: _ => .error .mismatched
  | r => do
    let _ ← readValue (fuelFor r) maxDepth r
    .error .mismatched

end WebTestbed.Json
