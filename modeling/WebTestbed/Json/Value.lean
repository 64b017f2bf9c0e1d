import WebTestbed.Number.Binary64

/-! JSON values. -/
namespace WebTestbed.Json

/-- Whole numbers keep their 64 bits; any other number is a signed binary64 number. -/
inductive Number where
  | whole (n : Int)
  | real (negative : Bool) (magnitude : Binary64)
  deriving DecidableEq, Repr

inductive Value where
  | null
  | bool (b : Bool)
  | number (n : Number)
  | string (s : String)
  | array (items : List Value)
  | object (fields : List (String × Value))
  deriving Repr, Inhabited

abbrev Fields := List (String × Value)

namespace Fields

def set (name : String) (value : Value) : Fields → Fields
  | [] => [(name, value)]
  | f :: r => if f.1 = name then (name, value) :: r else f :: set name value r

/-- Adds the second fields to the first; they win. -/
def extend (a b : Fields) : Fields :=
  b.foldl (fun fs f => set f.1 f.2 fs) a

end WebTestbed.Json.Fields
