import WebTestbed.Shell.Machine
import WebTestbed.Shell.Wildcard

/-! The fields that words are made into. -/
namespace WebTestbed.Shell

structure FieldText where
  text : String := ""
  pattern : List Char := []

def FieldText.expand (t : FileTree) (f : FieldText) : List String :=
  match pathsFitting t f.pattern with
  | [] => [f.text]
  | l => l

structure Fields where
  complete : List FieldText := []
  current : Option FieldText := none
  /-- Whether a blank has ended the last field. -/
  ended : Bool := false

namespace Fields

def add (f : Fields) (quoted : Bool) (s : String) : Fields :=
  let c := f.current.getD {}
  let more := if quoted then literalPattern s.toList else s.toList
  { f with current := some ⟨c.text ++ s, c.pattern ++ more⟩, ended := false }

def close (f : Fields) : Fields :=
  match f.current with
  | some c => ⟨c :: f.complete, none, f.ended⟩
  | none => f

/-- Adds a text in which separators end fields; those that are blank count together as one. -/
def addSplit (separators : List Char) (f : Fields) (s : String) : Fields :=
  s.toList.foldl (fun f c =>
    if !separators.contains c then f.add false (String.ofList [c])
    else if c = ' ' || c = '\t' || c = '\n' then
      { f.close with ended := f.ended || f.current.isSome }
    else if f.ended then { f with ended := false }
    else { (f.current.map fun _ => f).getD (f.add false "") |>.close with ended := false }) f

/-- Adds texts as fields of their own, of which the first and the last may be continued. -/
def addAll (f : Fields) : List String → Fields
  | [] => if (f.current.map (·.text)) = some "" then { f with current := none } else f
  | s :: r => r.foldl (fun f s => f.close.add true s) (f.add true s)

def toList (f : Fields) : List FieldText :=
  f.close.complete.reverse

end Fields

/-- The texts that a line is split into for so many variables; the last takes the rest. -/
def lineFields (separators : List Char) : Nat → List Char → List String
  | 0, _ => []
  | 1, s =>
    let blank (c : Char) := separators.contains c && (c = ' ' || c = '\t')
    [String.ofList ((s.dropWhile blank).reverse.dropWhile blank).reverse]
  | n + 2, s =>
    let blank (c : Char) := separators.contains c && (c = ' ' || c = '\t')
    let s := s.dropWhile blank
    let field := s.takeWhile (!separators.contains ·)
    let rest := (s.drop field.length).dropWhile blank
    let rest := match rest with
      | c :: r => if separators.contains c then r else rest
      | [] => []
    String.ofList field :: lineFields separators (n + 1) rest

def withoutNewlines (bytes : Bytes) : String :=
  Utf8.lossyString (bytes.reverse.dropWhile (· = 10)).reverse

def singleQuoted (s : String) : String :=
  "'" ++ Text.joinWith "'\"'\"'" (Text.piecesString '\'' s) ++ "'"

end WebTestbed.Shell
