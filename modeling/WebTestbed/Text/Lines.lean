import WebTestbed.Text.Cut

/-! Lines of text: each ends at a line feed, and a carriage return right before it belongs to the
end. -/
namespace WebTestbed.Text

def dropReturn : List Char → List Char
  | '\r' :: r => r
  | r => r

def linesFrom (cur : List Char) : List Char → List (List Char)
  | [] => if cur.isEmpty then [] else [cur.reverse]
  | c :: r =>
    if c = '\n' then (dropReturn cur).reverse :: linesFrom [] r else linesFrom (c :: cur) r

/-- The lines of the text. A last line without its line feed is a line as it stands. -/
def lines (s : List Char) : List (List Char) :=
  linesFrom [] s

def unlines (ls : List String) : String :=
  ls.foldr (fun l r => l ++ "\n" ++ r) ""

end WebTestbed.Text
