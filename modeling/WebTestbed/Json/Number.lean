import WebTestbed.Json.Value
import WebTestbed.Text.Numeral

/-! Reading JSON numbers. Whole numbers of 64 bits are exact; any other is the first digits that fit
in 64 bits, rounded, then scaled by a power of ten and rounded again. -/
namespace WebTestbed.Json

/-- Why a text is not the JSON wanted: it ends too soon, breaks the grammar, or has another shape.
-/
inductive ReadError where
  | tooShort
  | malformed
  | mismatched
  deriving DecidableEq, Repr

def maxPower : Nat := 308

/-- Divides by `10 ^ 308` while the exponent is below `-308`, at most `fuel` times. -/
def scaleDown (f : Binary64) (exponent : Int) : Nat → Option (Binary64 × Int)
  | 0 => some (f, exponent)
  | fuel + 1 =>
    if -(maxPower : Int) ≤ exponent || f.mantissa = 0 then some (f, exponent)
    else do
      let p ← Binary64.powTen maxPower
      scaleDown (← f.div p) (exponent + maxPower) fuel

/-- `significand · 10 ^ exponent`, rounded at each step; out of range is an error. -/
def scale (significand : Nat) (exponent : Int) : Except ReadError Binary64 :=
  match Binary64.ofNat significand with
  | none => .error .malformed
  | some f =>
    if f.mantissa = 0 then .ok f
    else if 0 ≤ exponent then
      if exponent ≤ maxPower then
        match (Binary64.powTen exponent.toNat).bind f.mul with
        | some x => .ok x
        | none => .error .malformed
      else .error .malformed
    else match scaleDown f exponent 4 with
      | none => .error .malformed
      | some (f, e) =>
        if f.mantissa = 0 || e < -(maxPower : Int) then .ok .zero
        else match (Binary64.powTen (-e).toNat).bind f.div with
          | some x => .ok x
          | none => .error .malformed

def gather (significand : Nat) (count : Nat) : List Char → Nat × Nat × List Char
  | [] => (significand, count, [])
  | c :: r =>
    if c.isDigit then
      let n := 10 * significand + Numeral.digitValue c
      if n ≤ Numeral.max64 then gather n (count + 1) r else (significand, count, c :: r)
    else (significand, count, c :: r)

def readExponent (s : List Char) : Except ReadError (Bool × Nat × List Char) :=
  let (negative, s) := match s with
    | '+' :: r => (false, r)
    | '-' :: r => (true, r)
    | r => (false, r)
  match s with
  | [] => .error .tooShort
  | c :: _ =>
    if c.isDigit then
      .ok (negative, Numeral.value (s.takeWhile Char.isDigit), s.dropWhile Char.isDigit)
    else .error .malformed

/-- Exponents from here on are not looked at more closely. -/
def exponentLimit : Nat := Nat.pow 2 31

def finishReal (negative : Bool) (significand : Nat) (exponent : Int) (s : List Char) :
    Except ReadError (Number × List Char) :=
  match s with
  | c :: r =>
    if c = 'e' || c = 'E' then do
      let (down, n, rest) ← readExponent r
      if exponentLimit ≤ n then
        if significand ≠ 0 && !down then .error .malformed
        else .ok (.real negative .zero, rest)
      else
        let x ← scale significand (if down then exponent - n else exponent + n)
        .ok (.real negative x, rest)
    else do .ok (.real negative (← scale significand exponent), c :: r)
  | [] => do .ok (.real negative (← scale significand exponent), [])

/-- Reads the digits after a point. Those that do not fit any more are dropped. -/
def readFraction (negative : Bool) (significand : Nat) (exponent : Int) (s : List Char) :
    Except ReadError (Number × List Char) :=
  let (n, count, rest) := gather significand 0 s
  match s with
  | [] => .error .tooShort
  | c :: _ =>
    if !c.isDigit then .error .malformed
    else finishReal negative n (exponent - count) (rest.dropWhile Char.isDigit)

/-- Reads what follows the digits of the whole part, of which `dropped` did not fit in 64 bits. -/
def afterWhole (negative : Bool) (significand dropped : Nat) (s : List Char) :
    Except ReadError (Number × List Char) :=
  match s with
  | '.' :: r => readFraction negative significand dropped r
  | c :: r =>
    if c = 'e' || c = 'E' || dropped ≠ 0 then finishReal negative significand dropped (c :: r)
    else whole (c :: r)
  | [] => if dropped ≠ 0 then finishReal negative significand dropped [] else whole []
where
  /-- A whole number; a negative one outside 64 bits, or zero with a minus sign, is not. -/
  whole (rest : List Char) : Except ReadError (Number × List Char) :=
    if !negative then .ok (.whole significand, rest)
    else if significand = 0 || Nat.pow 2 63 < significand then do
      .ok (.real true (← scale significand 0), rest)
    else .ok (.whole (-significand), rest)

def readUnsigned (negative : Bool) (s : List Char) : Except ReadError (Number × List Char) :=
  match s with
  | [] => .error .tooShort
  | '0' :: r =>
    if (r.head?.map Char.isDigit).getD false then .error .malformed else afterWhole negative 0 0 r
  | c :: _ =>
    if c.isDigit then
      let (n, _, rest) := gather 0 0 s
      afterWhole negative n (rest.takeWhile Char.isDigit).length (rest.dropWhile Char.isDigit)
    else .error .malformed

def readNumber : List Char → Except ReadError (Number × List Char)
  | '-' :: r => readUnsigned true r
  | s => readUnsigned false s

end WebTestbed.Json
