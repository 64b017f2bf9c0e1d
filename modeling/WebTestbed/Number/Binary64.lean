/-! Non-negative binary64 numbers and the arithmetic that rounds to the nearest of them, ties to
even. -/
namespace WebTestbed

/-- The finite number `mantissa · 2 ^ exponent`. -/
structure Binary64 where
  mantissa : Nat
  exponent : Int
  deriving DecidableEq, Repr

namespace Binary64

def minExponent : Int := -1074

def maxExponent : Int := 971

def zero : Binary64 := ⟨0, minExponent⟩

/-- The quotient rounded to the nearest integer, the even one at a midpoint. -/
def divEven (num den : Nat) : Nat :=
  let q := num / den
  let r := num % den
  if 2 * r < den then q
  else if den < 2 * r then q + 1
  else q + q % 2

def stepOf (num den : Nat) : Int :=
  let e : Int := (num.log2 : Int) - den.log2 - 52
  let low :=
    if 0 ≤ e then num < Nat.pow 2 52 * (den * Nat.pow 2 e.toNat)
    else num * Nat.pow 2 (-e).toNat < Nat.pow 2 52 * den
  max minExponent (if low then e - 1 else e)

def ofRatio (num den : Nat) : Option Binary64 :=
  if num = 0 then some zero
  else
    let e := stepOf num den
    let m := if 0 ≤ e then divEven num (den * Nat.pow 2 e.toNat)
      else divEven (num * Nat.pow 2 (-e).toNat) den
    let x : Binary64 := if m = Nat.pow 2 53 then ⟨Nat.pow 2 52, e + 1⟩ else ⟨m, e⟩
    if maxExponent < x.exponent then none else some x

def ofNat (n : Nat) : Option Binary64 :=
  ofRatio n 1

def num (x : Binary64) : Nat :=
  if 0 ≤ x.exponent then x.mantissa * Nat.pow 2 x.exponent.toNat else x.mantissa
def den (x : Binary64) : Nat := if 0 ≤ x.exponent then 1 else Nat.pow 2 (-x.exponent).toNat

def add (x y : Binary64) : Option Binary64 :=
  ofRatio (x.num * y.den + y.num * x.den) (x.den * y.den)

def mul (x y : Binary64) : Option Binary64 :=
  ofRatio (x.num * y.num) (x.den * y.den)

def div (x y : Binary64) : Option Binary64 :=
  ofRatio (x.num * y.den) (x.den * y.num)

def powTen (k : Nat) : Option Binary64 :=
  ofNat (Nat.pow 10 k)

end WebTestbed.Binary64
