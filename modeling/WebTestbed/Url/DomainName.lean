import WebTestbed.Text.Composition
import WebTestbed.Text.DirectionTable
import WebTestbed.Text.JoiningTable
import WebTestbed.Text.Mark
import WebTestbed.Url.MappingTable
import WebTestbed.Url.Punycode

/-! Domain names in ASCII: characters mapped and composed, labels checked, and labels of other
characters written in Punycode. -/
namespace WebTestbed.DomainName

structure Mapping where
  first : Nat
  step : Nat
  texts : List (List Char)

namespace Mapping

/-- The sign between the code point and the texts: they belong to one, to all that follow, or to
each second one. -/
def isSign (c : Char) : Bool :=
  c = '=' || c = ':' || c = ';'

def ofChars (s : List Char) : Mapping :=
  let code := Text.Ranges.number (s.takeWhile (!isSign ·))
  match s.dropWhile (!isSign ·) with
  | '=' :: r => ⟨code, 1, [r]⟩
  | ';' :: r => ⟨code, 2, r.map ([·])⟩
  | _ :: r => ⟨code, 1, r.map ([·])⟩
  | [] => ⟨code, 1, []⟩

def text? (m : Mapping) (n : Nat) : Option (List Char) :=
  if n < m.first || (n - m.first) % m.step ≠ 0 then none else m.texts[(n - m.first) / m.step]?

end Mapping

def mappings : List Mapping :=
  mappingLines.flatMap fun l => ((Text.pieces '§' l.toList).filter (!·.isEmpty)).map Mapping.ofChars

def mapped? (c : Char) : Option (List Char) :=
  mappings.findSome? (·.text? c.toNat)

/-- What a character becomes; some may not stand in a domain name. -/
def mapChar? (c : Char) : Option (List Char) :=
  if c.toNat < 128 then some [c.toLower]
  else if disallowed.contains c.toNat then none
  else if ignored.contains c.toNat then some []
  else some ((mapped? c).getD [c])

def isPlain (c : Char) : Bool :=
  mapChar? c = some [c]

def normalize? (s : List Char) : Option (List Char) :=
  if s.all (·.toNat < 128) then some (s.map Char.toLower)
  else (s.mapM mapChar?).map fun l => Text.composed l.flatten

def isForbidden (c : Char) : Bool :=
  c.toNat ≤ 0x20 || c.toNat = 0x7F || "%#/:<>?@[\\]^|".toList.contains c

def viramaClass : Nat := 9

/-- Whether the letters before and after a sign that keeps letters apart would join. -/
def separatesJoined (before after : List Char) : Bool :=
  let isTransparent (c : Char) : Bool := Text.joining c = .transparent
  let left := (before.dropWhile isTransparent).head?.map Text.joining
  let right := (after.dropWhile isTransparent).head?.map Text.joining
  (left = some .left || left = some .dual) && (right = some .right || right = some .dual)

/-- Whether the joining signs in a label are where they may be; `before` is what is passed, last
character first. -/
def joinersFit (before : List Char) : List Char → Bool
  | [] => true
  | c :: r =>
    let afterVirama := before.head?.any (Text.combiningClass · = viramaClass)
    (if c = '\u200D' then afterVirama
    else if c = '\u200C' then afterVirama || separatesJoined before r
    else true) && joinersFit (c :: before) r

def isRightToLeft (c : Char) : Bool :=
  match Text.direction c with
  | .right | .arabicLetter | .arabicNumber => true
  | _ => false

def isWeak : Text.Direction → Bool
  | .number | .separator | .commonSeparator | .terminator | .neutral | .boundary | .mark => true
  | _ => false

/-- Whether the direction of a label is clear, as it has to be in names with characters that are
written from right to left. -/
def directionFits (label : List Char) : Bool :=
  let classes := label.map Text.direction
  let last := (classes.reverse.dropWhile (· = .mark)).head?
  match classes with
  | [] => true
  | .left :: _ =>
    classes.all (fun d => d = .left || isWeak d) && (last = some .left || last = some .number)
  | .right :: _ | .arabicLetter :: _ =>
    classes.all (fun d => d = .right || d = .arabicLetter || d = .arabicNumber || isWeak d) &&
      (last = some .right || last = some .arabicLetter || last = some .number ||
        last = some .arabicNumber) &&
      !(classes.contains .number && classes.contains .arabicNumber)
  | _ => false

def isLabel (label : List Char) : Bool :=
  !label.head?.any Text.isMark && label.all isPlain && joinersFit [] label

def punycodeMark : List Char := "xn--".toList

def isAscii (s : List Char) : Bool :=
  s.all (·.toNat < 128)

def readLabel? (label : List Char) : Option (List Char) :=
  if punycodeMark.isPrefixOf label then do
    let s ← Punycode.decode? (label.drop punycodeMark.length)
    if isAscii s || Text.composed s ≠ s || !isLabel s then none else some s
  else if isAscii label || isLabel label then some label
  else none

def writeLabel (label : List Char) : List Char :=
  if isAscii label then label else punycodeMark ++ Punycode.encode label

def joinLabels (labels : List (List Char)) : List Char :=
  (labels.intersperse ['.']).flatten

def toAscii? (s : List Char) : Option (List Char) := do
  let labels := Text.pieces '.' (← normalize? s)
  let read ← labels.mapM readLabel?
  if read.any (·.any isRightToLeft) && !read.all directionFits then none
  let name := joinLabels (labels.map writeLabel)
  if name.any isForbidden then none else some name

end WebTestbed.DomainName
