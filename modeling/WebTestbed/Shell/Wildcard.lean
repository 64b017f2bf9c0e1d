import WebTestbed.Files.FileTree
import WebTestbed.Shell.Grammar

/-! Patterns in scripts: whether texts fit them, and the files whose paths do. A backslash takes
away what the character after it means. -/
namespace WebTestbed.Shell

def inBrackets (c : Char) : List Char → Bool
  | a :: '-' :: b :: r => (a ≤ c && c ≤ b) || inBrackets c r
  | a :: r => a = c || inBrackets c r
  | [] => false

/-- The characters of a set up to its closing bracket, which they may start with, and what follows
it. -/
def bracketText (s : List Char) : Option (List Char × List Char) :=
  match s with
  | ']' :: r => (Text.cut ']' r).map fun p => (']' :: p.1, p.2)
  | _ => Text.cut ']' s

theorem length_bracketText {s a r} (h : bracketText s = some (a, r)) : r.length < s.length := by
  unfold bracketText at h
  split at h
  · obtain ⟨⟨b, r'⟩, hc, he⟩ := Option.map_eq_some_iff.1 h
    cases he
    grind [Text.cut_eq_some hc]
  · grind [Text.cut_eq_some h]

/-- Whether a character is in the set that starts after a bracket, and what follows the set. An
exclamation mark turns the set around. -/
def bracketSet (s : List Char) : Option ((Char → Bool) × List Char) :=
  match s with
  | '!' :: r => (bracketText r).map fun p => (fun c => !inBrackets c p.1, p.2)
  | _ => (bracketText s).map fun p => (fun c => inBrackets c p.1, p.2)

theorem length_bracketSet {s set r} (h : bracketSet s = some (set, r)) : r.length < s.length := by
  unfold bracketSet at h
  split at h
  all_goals
    obtain ⟨⟨b, r'⟩, hc, he⟩ := Option.map_eq_some_iff.1 h
    cases he
    grind [length_bracketText hc]

def fits (pattern s : List Char) : Bool :=
  match pattern, s with
  | [], _ => s.isEmpty
  | '*' :: p, [] => fits p []
  | '*' :: p, c :: r => fits p (c :: r) || fits ('*' :: p) r
  | '?' :: p, _ :: r => fits p r
  | '\\' :: d :: p, c :: r => c = d && fits p r
  | '[' :: p, c :: r =>
    match h : bracketSet p with
    | some (set, rest) =>
      have := length_bracketSet h
      set c && fits rest r
    | none => c = '[' && fits p r
  | d :: p, c :: r => c = d && fits p r
  | _ :: _, [] => false
termination_by pattern.length + s.length

def isWild : List Char → Bool
  | '\\' :: _ :: r => isWild r
  | c :: r => c = '*' || c = '?' || c = '[' || isWild r
  | [] => false

def literalPattern (s : List Char) : List Char :=
  s.flatMap fun c => if c = '*' || c = '?' || c = '[' || c = '\\' then ['\\', c] else [c]

def plainText : List Char → List Char
  | '\\' :: c :: r => c :: plainText r
  | c :: r => c :: plainText r
  | [] => []

/-- The names in a directory that fit a pattern; a dot at the start has to be written. -/
def namesFitting (t : FileTree) (dir : Path) (pattern : List Char) : List String :=
  let all := ((t.list dir).toOption.getD []).map (·.1)
  all.filter fun name =>
    (!name.startsWith "." || pattern.head? = some '.') && fits pattern name.toList

def pathsFrom (t : FileTree) (start : String) : List (List Char) → List String
  | [] => if t.contains ⟨start⟩ then [start] else []
  | p :: rest =>
    let slash := if rest.isEmpty then "" else "/"
    if isWild p then
      (namesFitting t ⟨if start.isEmpty then "." else start⟩ p).flatMap fun name =>
        pathsFrom t (start ++ name ++ slash) rest
    else pathsFrom t (start ++ String.ofList (plainText p) ++ slash) rest

def pathsFitting (t : FileTree) (pattern : List Char) : List String :=
  if isWild pattern then pathsFrom t "" (Text.pieces '/' pattern) else []

/-- The text without a part at its start that fits a pattern, of the first length that there is. -/
def dropFitting (pattern s : List Char) (lengths : List Nat) : List Char :=
  match lengths.find? fun n => fits pattern (s.take n) with
  | some n => s.drop n
  | none => s

def keepUnfitting (pattern s : List Char) (places : List Nat) : List Char :=
  match places.find? fun n => fits pattern (s.drop n) with
  | some n => s.take n
  | none => s

def Choice.cut (c : Choice) (pattern s : List Char) : List Char :=
  let lengths := List.range (s.length + 1)
  match c with
  | .dropStart => dropFitting pattern s lengths
  | .dropLongStart => dropFitting pattern s lengths.reverse
  | .dropEnd => keepUnfitting pattern s lengths.reverse
  | .dropLongEnd => keepUnfitting pattern s lengths
  | _ => s

end WebTestbed.Shell
