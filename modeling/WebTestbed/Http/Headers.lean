import WebTestbed.Text.Blank
import WebTestbed.Text.Cut

/-! Header fields: a map from names, of which the case does not count, that keeps the order of first
appearance. -/
namespace WebTestbed.Http

/-- Header fields by lower-case name, in the order the names first appeared. -/
structure Headers where
  entries : List (String × String)
  deriving DecidableEq, Repr

namespace Headers

def empty : Headers := ⟨[]⟩

def assign (name value : String) : List (String × String) → List (String × String)
  | [] => [(name, value)]
  | e :: r => if e.1 = name then (name, value) :: r else e :: assign name value r

/-- The last value given to a name wins. -/
def insert (h : Headers) (name value : String) : Headers :=
  ⟨assign (Text.lowercase name) value h.entries⟩

def get? (h : Headers) (name : String) : Option String :=
  h.entries.lookup (Text.lowercase name)

def contains (h : Headers) (name : String) : Bool :=
  (h.get? name).isSome

def size (h : Headers) : Nat :=
  h.entries.length

def isEmpty (h : Headers) : Bool :=
  h.entries.isEmpty

end Headers

/-- Reads a header line: a non-empty name, a colon and the value, without the blanks around it. -/
def readHeader? (line : List Char) : Option (String × String) := do
  let (name, value) ← Text.cut ':' line
  if name.isEmpty then none
  return (String.ofList name, String.ofList (Text.trim value))

def renderHeader (field : String × String) : String :=
  field.1 ++ ": " ++ field.2

end WebTestbed.Http
