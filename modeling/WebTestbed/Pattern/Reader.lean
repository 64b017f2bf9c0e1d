import WebTestbed.Pattern.Token

/-! Reading patterns. -/
namespace WebTestbed.Pattern

/-- A group that is being read: its mode, the alternatives before the last bar, and what follows it,
last first. -/
structure Group where
  mode : Mode := {}
  before : Option Pattern := none
  pieces : List Pattern := []

namespace Group

def push (g : Group) (p : Pattern) : Group :=
  { g with pieces := p :: g.pieces }

def lastPattern (g : Group) : Pattern :=
  g.pieces.foldl (fun r p => if r = .empty then p else .seq p r) .empty

def pattern (g : Group) : Pattern :=
  match g.before with
  | none => g.lastPattern
  | some p => .alt p g.lastPattern

def bar (g : Group) : Group :=
  { g with before := some g.pattern, pieces := [] }

def read (g : Group) (s : CharSet) : Pattern :=
  .one (if g.mode.anyCase then s.inAnyCase else s)

end Group

def addToken : Group × List Group → Token → Option (Group × List Group)
  | (g, outer), .set s => some (g.push (g.read s), outer)
  | (g, outer), .dot =>
    some (g.push (.one (if g.mode.dotAll then .complement .none else .notNewline)), outer)
  | (g, outer), .anchor a => some (g.push (.anchor a), outer)
  | (g, outer), .bar => some (g.bar, outer)
  | (g, outer), .mode change => some ({ g with mode := change g.mode }, outer)
  | (g, outer), .opening change => some ({ mode := change g.mode }, g :: outer)
  | (g, h :: outer), .closing => some (h.push g.pattern, outer)
  | (_, []), .closing => none
  | (g, outer), .repetition least most =>
    match g.pieces with
    | [] => none
    | p :: r => some ({ g with pieces := p.repeated least most :: r }, outer)

def read? (s : String) : Option Pattern := do
  match ← (← Token.readAll? s.toList).foldlM addToken ({}, []) with
  | (g, []) => return g.pattern
  | _ => none

end WebTestbed.Pattern
