import WebTestbed.Text.Cut

/-! Configuration text: lines, indented by the number of blocks open around them. -/
namespace WebTestbed

inductive BlockFault where
  | noOpenBlock
  | noServerName
  deriving DecidableEq, Repr

def BlockFault.message : BlockFault → String
  | noOpenBlock => "no open block to close"
  | noServerName => "a virtual host needs a server name"

/-- Lines, and how many blocks are open after them. -/
structure Document where
  lines : List String
  depth : Nat
  deriving DecidableEq, Repr

namespace Document

def empty : Document := ⟨[], 0⟩

/-- A line inside the given number of blocks: two spaces for each. -/
def indent (depth : Nat) (line : String) : String :=
  String.ofList (List.replicate (2 * depth) ' ') ++ line

/-- The lines of each text; a text ends a line at every line feed it holds. -/
def linesOf (texts : List String) : List String :=
  texts.flatMap (Text.piecesString '\n')

def add (d : Document) (texts : List String) : Document :=
  ⟨d.lines ++ (linesOf texts).map (indent d.depth), d.depth⟩

def push (d : Document) : Document :=
  ⟨d.lines, d.depth + 1⟩

def leave (d : Document) : Document :=
  ⟨d.lines, d.depth - 1⟩

def pop (d : Document) : Except BlockFault Document :=
  if d.depth = 0 then .error .noOpenBlock else .ok d.leave

/-- The lines with a line feed between each two, and one at the end. -/
def text (d : Document) : String :=
  Text.joinWith "\n" d.lines ++ "\n"

@[simp] theorem depth_add (d : Document) (texts : List String) : (d.add texts).depth = d.depth :=
  rfl

theorem add_append (d : Document) (a b : List String) : (d.add a).add b = d.add (a ++ b) := by
  simp [add, linesOf]

@[simp] theorem leave_push (d : Document) : d.push.leave = d := rfl

@[simp] theorem pop_push (d : Document) : d.push.pop = .ok d := rfl

end WebTestbed.Document
