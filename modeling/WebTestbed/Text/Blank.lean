/-! White space as Unicode counts it; trimming and splitting by it. -/
namespace WebTestbed.Text

/-- The characters with the White_Space property. -/
def isBlank (c : Char) : Bool :=
  let n := c.toNat
  (0x9 ≤ n && n ≤ 0xD) || n == 0x20 || n == 0x85 || n == 0xA0 || n == 0x1680 ||
    (0x2000 ≤ n && n ≤ 0x200A) || n == 0x2028 || n == 0x2029 || n == 0x202F || n == 0x205F ||
    n == 0x3000

def trim (s : List Char) : List Char :=
  ((s.dropWhile isBlank).reverse.dropWhile isBlank).reverse

def trimmed (s : String) : String :=
  String.ofList (trim s.toList)

/-- The runs between blanks; `cur` is the run being read, last character first. -/
def wordsFrom (cur : List Char) : List Char → List (List Char)
  | [] => if cur.isEmpty then [] else [cur.reverse]
  | c :: r =>
    if isBlank c then
      if cur.isEmpty then wordsFrom [] r else cur.reverse :: wordsFrom [] r
    else wordsFrom (c :: cur) r

def words (s : String) : List String :=
  (wordsFrom [] s.toList).map String.ofList

end WebTestbed.Text
