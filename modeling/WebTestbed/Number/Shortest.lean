import WebTestbed.Number.Binary64

/-! The shortest decimal that reads back as a given binary64 number. -/
namespace WebTestbed.Binary64

structure Decimal where
  digits : Nat
  exponent : Int
  deriving DecidableEq, Repr

/-- The ends of the interval that rounds to the number and the number itself, in quarters of a step.
-/
def quarters (x : Binary64) : Nat × Nat × Nat :=
  let below := if x.mantissa = Nat.pow 2 52 && minExponent < x.exponent then 1 else 2
  (4 * x.mantissa - below, 4 * x.mantissa, 4 * x.mantissa + 2)

def inUnits (x : Binary64) (j : Int) (q : Nat) : Nat × Nat :=
  let e := x.exponent - 2
  let n := if 0 ≤ e then q * Nat.pow 2 e.toNat else q
  let d := if 0 ≤ e then 1 else Nat.pow 2 (-e).toNat
  if 0 ≤ j then (n, d * Nat.pow 10 j.toNat) else (n * Nat.pow 10 (-j).toNat, d)

/-- The point of the decimal grid `10 ^ j` nearest to the number among those that read back as it;
the ends of the interval belong to it if the mantissa is even. -/
def onGrid (x : Binary64) (j : Int) : Option Nat :=
  let (lo, mid, hi) := quarters x
  let (ln, ld) := inUnits x j lo
  let (mn, md) := inUnits x j mid
  let (hn, hd) := inUnits x j hi
  let even := x.mantissa % 2 = 0
  let inside (c : Nat) : Bool :=
    (ln < c * ld || (even && ln = c * ld)) && (c * hd < hn || (even && c * hd = hn))
  let c := mn / md
  match inside c, inside (c + 1) with
  | true, true => some (if 2 * (mn % md) < md then c else c + 1)
  | true, false => some c
  | false, true => some (c + 1)
  | false, false => none

def shortestFrom (x : Binary64) (j : Int) : Nat → Decimal
  | 0 => ⟨0, 0⟩
  | fuel + 1 => match onGrid x j with
    | some c => ⟨c, j⟩
    | none => shortestFrom x (j - 1) fuel

/-- The coarsest grid that can have a point in the interval. -/
def coarsest (x : Binary64) : Int :=
  let bits : Int := x.mantissa.log2 + x.exponent
  bits * 30103 / 100000 + 1

def dropZeros (d : Decimal) : Nat → Decimal
  | 0 => d
  | fuel + 1 =>
    if d.digits % 10 = 0 && d.digits ≠ 0 then dropZeros ⟨d.digits / 10, d.exponent + 1⟩ fuel
    else d

/-- The decimal with the fewest digits that reads back as the number, of those the nearest. -/
def shortest (x : Binary64) : Decimal :=
  if x.mantissa = 0 then ⟨0, 0⟩ else dropZeros (shortestFrom x (coarsest x) 20) 20

/-- Positional notation, without an exponent and without a point if the number is whole. -/
def Decimal.positional (d : Decimal) : String :=
  let s := (Nat.toDigits 10 d.digits)
  if 0 ≤ d.exponent then String.ofList (s ++ List.replicate d.exponent.toNat '0')
  else
    let places := (-d.exponent).toNat
    let s := List.replicate (places + 1 - s.length) '0' ++ s
    String.ofList (s.take (s.length - places) ++ '.' :: s.drop (s.length - places))

example : (ofRatio 1 10).map shortest = some ⟨1, -1⟩ := by decide +kernel

example : shortest ⟨1, -1074⟩ = ⟨5, -324⟩ := by decide +kernel

end WebTestbed.Binary64
