import WebTestbed.Text.CompositionTable

/-! The composed form of text: marks in their canonical order, and every character composed with the
marks after it where there is a composed character for them. -/
namespace WebTestbed.Text

structure Composition where
  whole : Char
  first : Char
  second : Char
  deriving DecidableEq, Repr

def compositionsOf : List Char → List Composition
  | w :: a :: b :: r => ⟨w, a, b⟩ :: compositionsOf r
  | _ => []

def compositions : List Composition :=
  compositionLines.flatMap fun l => compositionsOf l.toList

def combiningClass (c : Char) : Nat :=
  ((combiningClasses.find? fun r => r.2.contains c.toNat).map (·.1)).getD 0

/-! Hangul syllables are composed by rule: `lead`, `vowel` and `tail` are the first of their kinds.
-/

def hangulSyllable : Nat := 0xAC00
def hangulLead : Nat := 0x1100
def hangulVowel : Nat := 0x1161
def hangulTail : Nat := 0x11A7
def hangulVowels : Nat := 21
def hangulTails : Nat := 28
def hangulSyllables : Nat := 11172

def hangulParts? (c : Char) : Option (List Char) :=
  let n := c.toNat - hangulSyllable
  if c.toNat < hangulSyllable || hangulSyllables ≤ n then none
  else
    let lead := Char.ofNat (hangulLead + n / (hangulVowels * hangulTails))
    let vowel := Char.ofNat (hangulVowel + n % (hangulVowels * hangulTails) / hangulTails)
    let tail := n % hangulTails
    some ([lead, vowel] ++ if tail = 0 then [] else [Char.ofNat (hangulTail + tail)])

/-- The Hangul syllable of a lead and a vowel, or of a syllable without a tail and a tail. -/
def hangul? (a b : Char) : Option Char :=
  let x := a.toNat
  let y := b.toNat
  if hangulLead ≤ x && x < hangulLead + 19 && hangulVowel ≤ y && y < hangulVowel + hangulVowels then
    some (Char.ofNat (hangulSyllable +
      ((x - hangulLead) * hangulVowels + (y - hangulVowel)) * hangulTails))
  else if hangulSyllable ≤ x && x < hangulSyllable + hangulSyllables &&
      (x - hangulSyllable) % hangulTails = 0 && hangulTail < y && y < hangulTail + hangulTails then
    some (Char.ofNat (x + (y - hangulTail)))
  else none

def parts : Nat → Char → List Char
  | 0, c => [c]
  | fuel + 1, c => match hangulParts? c with
    | some l => l
    | none => match compositions.find? (·.whole = c) with
      | some x => parts fuel x.first ++ [x.second]
      | none => [c]

def insertMark (c : Char) : List Char → List Char
  | [] => [c]
  | d :: r =>
    if combiningClass d ≠ 0 && combiningClass d < combiningClass c then d :: insertMark c r
    else c :: d :: r

def orderMarks (s : List Char) : List Char :=
  s.foldr (fun c r => if combiningClass c = 0 then c :: r else insertMark c r) []

def decompose (s : List Char) : List Char :=
  orderMarks (s.flatMap (parts 4))

def composite? (a b : Char) : Option Char :=
  (hangul? a b).or ((compositions.find? fun x => x.first = a && x.second = b).map (·.whole))

/-- Whether a mark between them keeps a character from the one it would be composed with; `between`
holds the marks, last first. -/
def isBlocked (between : List Char) (c : Char) : Bool :=
  match between with
  | [] => false
  | m :: _ => combiningClass c ≤ combiningClass m

/-- Composes the text after a character and the marks that were not composed with it, last first. -/
def composeFrom (start : Char) (between : List Char) : List Char → List Char
  | [] => start :: between.reverse
  | c :: r =>
    match if isBlocked between c then none else composite? start c with
    | some w => composeFrom w between r
    | none =>
      if combiningClass c = 0 then (start :: between.reverse) ++ composeFrom c [] r
      else composeFrom start (c :: between) r

/-- Composes the characters of a text; marks before the first other character stay. -/
def composeAll : List Char → List Char
  | [] => []
  | c :: r => if combiningClass c = 0 then composeFrom c [] r else c :: composeAll r

def composed (s : List Char) : List Char :=
  composeAll (decompose s)

end WebTestbed.Text
