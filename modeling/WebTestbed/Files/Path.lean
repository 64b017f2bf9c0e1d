import WebTestbed.Text.Cut

/-! Paths as text. -/
namespace WebTestbed

structure Path where
  text : String
  deriving DecidableEq, Repr

namespace Path

instance : Coe String Path := ⟨Path.mk⟩

def isAbsolute (p : Path) : Bool :=
  p.text.startsWith "/"

/-- The second path as seen from the first. An absolute path stands for itself; joining the empty
path ends the first with a slash. -/
def join (p q : Path) : Path :=
  if q.isAbsolute then q
  else if p.text.isEmpty || p.text.endsWith "/" then ⟨p.text ++ q.text⟩
  else ⟨p.text ++ "/" ++ q.text⟩

def names (p : Path) : List String :=
  (Text.piecesString '/' p.text).filter (!·.isEmpty)

/-- A path whose last name has to be that of a directory. -/
def endsInSlash (p : Path) : Bool :=
  p.text.endsWith "/"

/-- The path of the directory that the path is in; the root and the empty path have none. -/
def parent? (p : Path) : Option Path :=
  let ns := p.names
  let ns := ns.take 1 ++ (ns.drop 1).filter (· ≠ ".")
  let ns := if p.isAbsolute then ns.filter (· ≠ ".") else ns
  if ns.isEmpty then none
  else some ⟨(if p.isAbsolute then "/" else "") ++ Text.joinWith "/" ns.dropLast⟩

/-- What follows the last dot of a file name, unless the name starts with that dot. -/
def extension? (name : String) : Option String :=
  match Text.cut '.' name.toList.reverse with
  | none => none
  | some (after, before) => if before.isEmpty then none else some (String.ofList after.reverse)

end WebTestbed.Path
