import WebTestbed.Number.Shortest
import WebTestbed.Text.Cut

/-! Spans of time in nanoseconds. -/
namespace WebTestbed

structure Duration where
  nanos : Nat
  deriving DecidableEq, Repr

namespace Duration

def perSecond : Nat := 1000000000

def ofSeconds (n : Nat) : Duration := ⟨n * perSecond⟩
def ofMillis (n : Nat) : Duration := ⟨n * 1000000⟩

def seconds (d : Duration) : Nat := d.nanos / perSecond

def subsecond (d : Duration) : Nat := d.nanos % perSecond

def min (a b : Duration) : Duration := ⟨Nat.min a.nanos b.nanos⟩
def max (a b : Duration) : Duration := ⟨Nat.max a.nanos b.nanos⟩

/-- The span in seconds, the whole seconds and the fraction each rounded to binary64 before they are
added, in the shortest decimal that reads back. -/
def decimalSeconds (d : Duration) : String :=
  let sum := do
    let whole ← Binary64.ofNat d.seconds
    let part ← Binary64.ofRatio d.subsecond perSecond
    whole.add part
  ((sum.map Binary64.shortest).getD ⟨0, 0⟩).positional

def fractionDigits (places n : Nat) : List Char :=
  let s := Nat.toDigits 10 n
  let s := List.replicate (places - s.length) '0' ++ s
  (s.reverse.dropWhile (· == '0')).reverse

def withUnit (whole places fraction : Nat) (unit : String) : String :=
  let f := fractionDigits places fraction
  toString whole ++ (if f.isEmpty then "" else "." ++ String.ofList f) ++ unit

/-- The span in the greatest of the units s, ms, µs and ns that it reaches. -/
def text (d : Duration) : String :=
  let n := d.nanos
  if perSecond ≤ n then withUnit d.seconds 9 d.subsecond "s"
  else if 1000000 ≤ n then withUnit (n / 1000000) 6 (n % 1000000) "ms"
  else if 1000 ≤ n then withUnit (n / 1000) 3 (n % 1000) "µs"
  else withUnit n 0 0 "ns"

end WebTestbed.Duration
