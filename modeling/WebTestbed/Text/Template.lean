/-! Templates: text in which `$name` and `${name}` stand for the value of a variable and `$$` for a
dollar sign. -/
namespace WebTestbed.Template

inductive Piece where
  | char (c : Char)
  | variable (name : List Char)
  deriving DecidableEq, Repr

structure UnknownVariable where
  name : String
  deriving DecidableEq, Repr

def UnknownVariable.message (e : UnknownVariable) : String :=
  "unknown template variable: " ++ e.name

def isNameStart (c : Char) : Bool :=
  c.isAlpha || c = '_'

def isNameChar (c : Char) : Bool :=
  isNameStart c || c.isDigit

def name? : List Char → Option (List Char × List Char)
  | [] => none
  | c :: r =>
    if isNameStart c then some (c :: r.takeWhile isNameChar, r.dropWhile isNameChar) else none

def bracedName? (s : List Char) : Option (List Char × List Char) :=
  match name? s with
  | some (name, '\x7d' :: r) => some (name, r)
  | _ => none

def reference? : List Char → Option (Piece × List Char)
  | [] => none
  | '$' :: r => some (.char '$', r)
  | '\x7b' :: r => (bracedName? r).map fun p => (.variable p.1, p.2)
  | c :: r => (name? (c :: r)).map fun p => (.variable p.1, p.2)

theorem length_name? {s name rest : List Char} (h : name? s = some (name, rest)) :
    rest.length < s.length := by
  match s with
  | [] => simp [name?] at h
  | c :: r =>
    simp only [name?] at h
    split at h
    · simp only [Option.some.injEq, Prod.mk.injEq] at h
      rw [← h.2]
      exact Nat.lt_succ_of_le (List.dropWhile_sublist _).length_le
    · simp at h

theorem length_bracedName? {s name rest : List Char} (h : bracedName? s = some (name, rest)) :
    rest.length < s.length := by
  unfold bracedName? at h
  split at h
  · next hn =>
    have := length_name? hn
    simp only [Option.some.injEq, Prod.mk.injEq] at h
    obtain ⟨_, rfl⟩ := h
    simp only [List.length_cons] at this
    omega
  · simp at h

theorem length_reference? {s rest : List Char} {p : Piece} (h : reference? s = some (p, rest)) :
    rest.length < s.length := by
  unfold reference? at h
  split at h
  · simp at h
  · simp only [Option.some.injEq, Prod.mk.injEq] at h
    simp [h.2]
  · obtain ⟨⟨n, r⟩, hn, he⟩ := Option.map_eq_some_iff.1 h
    simp only [Prod.mk.injEq] at he
    have := length_bracedName? hn
    rw [← he.2]
    simp only [List.length_cons]
    omega
  · obtain ⟨⟨n, r⟩, hn, he⟩ := Option.map_eq_some_iff.1 h
    simp only [Prod.mk.injEq] at he
    rw [← he.2]
    exact length_name? hn

/-- A reference in a text: the positions where it starts and ends, and what it stands for. -/
structure Match where
  start : Nat
  stop : Nat
  piece : Piece
  deriving DecidableEq, Repr

/-- The leftmost reference in a text whose first character has the position, and the text after it.
-/
def find? (position : Nat) : List Char → Option (Match × List Char)
  | [] => none
  | c :: r =>
    match if c = '$' then reference? r else none with
    | some (p, rest) => some (⟨position, position + 1 + (r.length - rest.length), p⟩, rest)
    | none => find? (position + 1) r

theorem length_find? {position : Nat} {s rest : List Char} {m : Match}
    (h : find? position s = some (m, rest)) : rest.length < s.length := by
  induction s generalizing position with
  | nil => cases h
  | cons c r ih =>
    unfold find? at h
    split at h
    · next p rest' hp =>
      cases h
      split at hp
      · exact Nat.lt_succ_of_lt (length_reference? hp)
      · cases hp
    · exact Nat.lt_succ_of_lt (ih h)

def findAll (position : Nat) (s : List Char) : List Match :=
  match h : find? position s with
  | none => []
  | some (m, rest) =>
    have := length_find? h
    m :: findAll m.stop rest
termination_by s.length

def Piece.expand (vars : String → Option String) : Piece → Except UnknownVariable (List Char)
  | .char c => .ok [c]
  | .variable name =>
    match vars (String.ofList name) with
    | some v => .ok v.toList
    | none => .error ⟨String.ofList name⟩

/-- Adds the text up to a reference and what the reference stands for. The positions up to `x.2` have
been dealt with. -/
def addMatch (vars : String → Option String) (s : List Char) (x : List Char × Nat) (m : Match) :
    Except UnknownVariable (List Char × Nat) := do
  let value ← m.piece.expand vars
  return (x.1 ++ (s.drop x.2).take (m.start - x.2) ++ value, m.stop)

/-- Puts the values of the variables into a template. Values are not read again. -/
def expand (vars : String → Option String) (text : String) : Except UnknownVariable String := do
  let s := text.toList
  let (out, last) ← (findAll 0 s).foldlM (addMatch vars s) ([], 0)
  return String.ofList (out ++ s.drop last)

end WebTestbed.Template
