import WebTestbed.ErrorLog.Line
import WebTestbed.Files.FileTree
import WebTestbed.Text.Lines

/-! Watching an error log: each look reads on from a position, and what no look has seen is missed.
-/
namespace WebTestbed

structure Findings where
  errors : List String := []
  warnings : List String := []
  deriving DecidableEq, Repr

namespace Findings

def ofLines (i : ErrorLog.Ignored) (lines : List String) : Findings :=
  ⟨lines.filter (i.classify · = some .error), lines.filter (i.classify · = some .warning)⟩

def append (f g : Findings) : Findings :=
  ⟨f.errors ++ g.errors, f.warnings ++ g.warnings⟩

def without (f g : Findings) : Findings :=
  ⟨f.errors.filter (!g.errors.contains ·), f.warnings.filter (!g.warnings.contains ·)⟩

end Findings

structure ErrorLog where
  path : Path
  ignored : ErrorLog.Ignored := {}
  start : Nat
  /-- Where the next look begins. -/
  position : Nat
  last : Findings := {}
  observed : Findings := {}
  deriving DecidableEq, Repr

namespace ErrorLog

/-- The size of a file; one that cannot be read counts as empty. -/
def sizeOf (t : FileTree) (p : Path) : Nat :=
  match t.read p with
  | .ok content => content.length
  | .error _ => 0

def watch (t : FileTree) (p : Path) : ErrorLog :=
  { path := p, start := sizeOf t p, position := sizeOf t p }

/-- The lines from a position on, and the position after them. A log that is not there has none. -/
def linesFrom (g : ErrorLog) (t : FileTree) (position : Nat) :
    Except FileError (List String × Nat) :=
  match t.read g.path with
  | .ok content =>
    let more := content.drop position
    .ok ((Text.lines (Utf8.lossy more)).map String.ofList, position + more.length)
  | .error .notFound => .ok ([], position)
  | .error e => .error e

/-- Looks at what is new. The next look goes on from there if it is to advance. -/
def recent (g : ErrorLog) (t : FileTree) (advance : Bool) :
    Except FileError (Findings × ErrorLog) := do
  let (lines, after) ← g.linesFrom t g.position
  let f := Findings.ofLines g.ignored lines
  return (f, { g with
    position := if advance then after else g.position
    last := f
    observed := g.observed.append f })

def recentCount (g : ErrorLog) (t : FileTree) (advance : Bool) :
    Except FileError ((Nat × Nat) × ErrorLog) := do
  let (f, g) ← g.recent t advance
  return ((f.errors.length, f.warnings.length), g)

def ignoreRecent (g : ErrorLog) (t : FileTree) : Except FileError ErrorLog := do
  let (lines, after) ← g.linesFrom t g.position
  return { g with
    position := after
    last := {}
    observed := g.observed.append (Findings.ofLines g.ignored lines) }

/-- What was logged since watching began and is unlike any line that a look has found. -/
def missed (g : ErrorLog) (t : FileTree) : Except FileError Findings := do
  let (lines, _) ← g.linesFrom t g.start
  return (Findings.ofLines g.ignored lines).without g.observed

def scan (g : ErrorLog) (t : FileTree) (p : Pattern) : Except FileError Bool := do
  let (lines, _) ← g.linesFrom t g.position
  return lines.any p.occursIn

def clear (g : ErrorLog) (t : FileTree) : Except FileError (ErrorLog × FileTree) :=
  let fresh : ErrorLog := { path := g.path, ignored := g.ignored, start := 0, position := 0 }
  match t.removeFile g.path with
  | .ok t => .ok (fresh, t)
  | .error .notFound => .ok (fresh, t)
  | .error e => .error e

def summary (g : ErrorLog) : String :=
  "HttpdErrorLog[" ++ g.path.text ++ ", errors: " ++ Text.joinWith " " g.last.errors ++
    ", warnings: " ++ Text.joinWith " " g.last.warnings ++ "]"

end WebTestbed.ErrorLog
