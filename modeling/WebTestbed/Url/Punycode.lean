/-! Punycode: text of any characters written in ASCII letters, digits and hyphens. -/
namespace WebTestbed.Punycode

def digitChar (d : Nat) : Char :=
  Char.ofNat (if d < 26 then 'a'.toNat + d else '0'.toNat + (d - 26))

def digitValue? (c : Char) : Option Nat :=
  if c.isLower then some (c.toNat - 'a'.toNat)
  else if c.isUpper then some (c.toNat - 'A'.toNat)
  else if c.isDigit then some (c.toNat - '0'.toNat + 26)
  else none

/-- The threshold of the digit at position `k`, which counts in steps of 36. -/
def threshold (bias k : Nat) : Nat :=
  max 1 (min 26 (k - bias))

theorem threshold_bounds (bias k : Nat) : 1 ≤ threshold bias k ∧ threshold bias k ≤ 26 := by
  unfold threshold
  omega

def shrink (delta : Nat) : Nat × Nat :=
  if h : 455 < delta then
    let r := shrink (delta / 35)
    (r.1 + 1, r.2)
  else (0, delta)
termination_by delta
decreasing_by omega

def adapt (delta count : Nat) : Nat :=
  let delta := if count = 1 then delta / 700 else delta / 2
  let (steps, rest) := shrink (delta + delta / count)
  36 * steps + 36 * rest / (rest + 38)

def writeNumber (bias k n : Nat) : List Char :=
  let t := threshold bias k
  if h : n < t then [digitChar n]
  else digitChar (t + (n - t) % (36 - t)) :: writeNumber bias (k + 36) ((n - t) / (36 - t))
termination_by n
decreasing_by
  have hb := threshold_bounds bias k
  have : (n - threshold bias k) / (36 - threshold bias k) ≤ n - threshold bias k :=
    Nat.div_le_self _ _
  omega

def readNumber? (bias k weight : Nat) : List Char → Option (Nat × List Char)
  | [] => none
  | c :: r => do
    let d ← digitValue? c
    let t := threshold bias k
    if d < t then return (d * weight, r)
    let (n, rest) ← readNumber? bias (k + 36) (weight * (36 - t)) r
    return (d * weight + n, rest)

theorem length_readNumber? {bias k weight s n rest}
    (h : readNumber? bias k weight s = some (n, rest)) : rest.length < s.length := by
  induction s generalizing k weight n rest with
  | nil => simp [readNumber?] at h
  | cons c r ih =>
    simp only [readNumber?, Option.bind_eq_bind, Option.bind_eq_some_iff] at h
    obtain ⟨d, _, h⟩ := h
    split at h
    · simp at h
      simp [h.2]
    · simp only [Option.bind_eq_some_iff] at h
      obtain ⟨⟨m, rest'⟩, hr, h⟩ := h
      have := ih hr
      simp at h
      obtain ⟨_, rfl⟩ := h
      simp only [List.length_cons]
      omega

/-- What is known while a text is written: the numbers written so far, the distance to the next
insertion, the bias, and how many characters are there. -/
structure Writer where
  digits : List Char
  delta : Nat
  bias : Nat
  count : Nat

def Writer.pass (basic m : Nat) (w : Writer) (c : Char) : Writer :=
  if c.toNat < m then { w with delta := w.delta + 1 }
  else if c.toNat = m then
    ⟨w.digits ++ writeNumber w.bias 36 w.delta, 0, adapt w.delta (w.count + 1 - basic), w.count + 1⟩
  else w

/-- Inserts the characters with the given codes, which ascend; `n` is the least code left. -/
def Writer.insert (basic : Nat) (s : List Char) (w : Writer) (n : Nat) : List Nat → Writer
  | [] => w
  | m :: r =>
    let w := s.foldl (Writer.pass basic m) { w with delta := w.delta + (m - n) * (w.count + 1) }
    Writer.insert basic s { w with delta := w.delta + 1 } (m + 1) r

def codes (s : List Char) : List Nat :=
  ((s.map Char.toNat).filter (128 ≤ ·)).mergeSort.eraseDups

def encode (s : List Char) : List Char :=
  let basic := s.filter fun c => c.toNat < 128
  let w := Writer.insert basic.length s ⟨[], 0, 72, basic.length⟩ 128 (codes s)
  (if basic.isEmpty then [] else basic ++ ['-']) ++ w.digits

def insertAt (i : Nat) (a : α) (l : List α) : List α :=
  l.take i ++ a :: l.drop i

/-- Reads the insertions into a text; `basic` characters were there before. -/
def readInsertions? (basic : Nat) (text : List Char) (n i bias : Nat) (s : List Char) :
    Option (List Char) :=
  if s.isEmpty then some text
  else match h : readNumber? bias 36 1 s with
    | none => none
    | some (delta, rest) =>
      have := length_readNumber? h
      let size := text.length + 1
      let i := i + delta
      let n := n + i / size
      if n.isValidChar then
        readInsertions? basic (insertAt (i % size) (Char.ofNat n) text) n (i % size + 1)
          (adapt delta (size - basic)) rest
      else none
termination_by s.length

def decode? (s : List Char) : Option (List Char) :=
  let digits := (s.reverse.takeWhile (· ≠ '-')).reverse
  let basic := s.take (s.length - digits.length - 1)
  if basic.isEmpty && s.contains '-' then none
  else if basic.all (·.toNat < 128) then readInsertions? basic.length basic 128 0 72 digits
  else none

example : encode "über".toList = "ber-goa".toList := by decide +kernel

example : decode? "ber-goa".toList = some "über".toList := by decide +kernel

end WebTestbed.Punycode
