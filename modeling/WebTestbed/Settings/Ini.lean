import WebTestbed.Json.Reader
import WebTestbed.Text.Blank

/-! Settings files: sections of keys and values, with comments on lines of their own, quotes around
values, and escapes by a backslash. -/
namespace WebTestbed.Ini

structure Malformed where
  deriving DecidableEq, Repr

/-- What is left of a text, and whether it starts at the start of a line. -/
structure Rest where
  chars : List Char
  fresh : Bool
  deriving DecidableEq, Repr

/-- What a backslash and a letter stand for; the backslash before a line feed takes both away. -/
def escape (c : Char) : List Char :=
  match c with
  | '0' => ['\x00']
  | 'a' => ['\x07']
  | 'b' => ['\x08']
  | 't' => ['\t']
  | 'r' => ['\r']
  | 'n' => ['\n']
  | '\n' => []
  | c => [c]

/-- The character with a code point of four hexadecimal digits; a plus sign may stand for the first.
-/
def codePoint? (a b c d : Char) : Option Char := do
  let a ← if a = '+' then some 0 else Json.hexValue? a
  let n := 4096 * a + 256 * (← Json.hexValue? b) + 16 * (← Json.hexValue? c) + (← Json.hexValue? d)
  if h : n.isValidChar then some ⟨.ofNat n, by
    rcases h with h | h <;> simp [UInt32.isValidChar, Nat.isValidChar] <;> omega⟩ else none

def put (cs : List Char) (x : List Char × Rest) : List Char × Rest :=
  (cs ++ x.1, x.2)

/-- Reads up to a character of the given class, or to the end if that is allowed. -/
def textUntil (ends : Char → Bool) (endAllowed fresh : Bool) :
    List Char → Except Malformed (List Char × Rest)
  | [] => if endAllowed then .ok ([], ⟨[], fresh⟩) else .error ⟨⟩
  | c :: r =>
    if ends c then .ok ([], ⟨c :: r, fresh⟩)
    else if c = '\\' then
      match r with
      | [] => .error ⟨⟩
      | 'x' :: a :: b :: c :: d :: r => match codePoint? a b c d with
        | some c => (textUntil ends endAllowed false r).map (put [c])
        | none => .error ⟨⟩
      | e :: r =>
        if e = 'x' then .error ⟨⟩
        else (textUntil ends endAllowed (e = '\n') r).map (put (escape e))
    else (textUntil ends endAllowed (c = '\n') r).map (put [c])

def isInlineBlank (c : Char) : Bool :=
  Text.isBlank c && c ≠ '\n' && c ≠ '\r'

def endsLine (c : Char) : Bool :=
  c = '\n' || c = '\r'

/-- Reads a value: in quotes if it starts with one, and up to the end of the line. -/
def readValue (s : List Char) : Except Malformed (List Char × Rest) :=
  match s.dropWhile isInlineBlank with
  | [] => .ok ([], ⟨[], false⟩)
  | c :: r =>
    if c = '"' || c = '\'' then
      match textUntil (· == c) false false r with
      | .error e => .error e
      | .ok (quoted, rest) =>
        (textUntil endsLine true false (rest.chars.drop 1)).map (put quoted)
    else textUntil endsLine true false (c :: r)

inductive Item where
  | comment
  | section (name : String)
  | property (key value : String)
  deriving DecidableEq, Repr

def tidy (s : List Char) : String :=
  String.ofList (Text.trim s)

def readItem (fresh : Bool) (c : Char) (r : List Char) : Except Malformed (Item × Rest) :=
  if c = ';' || c = '#' then
    if fresh then .ok (.comment, ⟨(r.dropWhile (· ≠ '\n')).drop 1, true⟩) else .error ⟨⟩
  else if c = '[' then
    match textUntil (· == ']') false false r with
    | .error e => .error e
    | .ok (name, rest) => .ok (.section (tidy name), ⟨rest.chars.drop 1, false⟩)
  else match textUntil (fun c => c = '=' || c = ':') false fresh (c :: r) with
    | .error e => .error e
    | .ok (key, rest) =>
      if (Text.trim key).isEmpty then .error ⟨⟩
      else match rest.chars with
        | [] => .error ⟨⟩
        | _ :: r => (readValue r).map fun v => (.property (tidy key) (tidy v.1), v.2)

def skipBlanks (fresh : Bool) : List Char → Rest
  | [] => ⟨[], fresh⟩
  | c :: r => if Text.isBlank c then skipBlanks (c = '\n') r else ⟨c :: r, fresh⟩

theorem length_textUntil {ends endAllowed fresh s t rest}
    (h : textUntil ends endAllowed fresh s = .ok (t, rest)) : rest.chars.length ≤ s.length := by
  fun_induction textUntil ends endAllowed fresh s generalizing t <;>
    simp_all [Except.map, put] <;> grind

theorem exists_of_map_ok {f : α → β} {x : Except ε α} {y : β} (h : x.map f = .ok y) :
    ∃ z, x = .ok z ∧ f z = y := by
  cases x with
  | error e => cases h
  | ok z => exact ⟨z, rfl, Except.ok.inj h⟩

theorem length_readValue {s t rest} (h : readValue s = .ok (t, rest)) :
    rest.chars.length ≤ s.length := by
  have hd := (List.dropWhile_sublist isInlineBlank (l := s)).length_le
  unfold readValue at h
  split at h
  · grind
  · next c r hs =>
    rw [hs, List.length_cons] at hd
    split at h
    · split at h
      · cases h
      · next q rest' hq =>
        have h1 := length_textUntil hq
        obtain ⟨⟨u, rest''⟩, h2, he⟩ := exists_of_map_ok h
        have h3 := length_textUntil h2
        cases he
        rw [List.length_drop] at h3
        dsimp only
        omega
    · have := length_textUntil h
      rw [List.length_cons] at this
      omega

theorem length_readItem {fresh c r i rest} (h : readItem fresh c r = .ok (i, rest)) :
    rest.chars.length ≤ r.length := by
  unfold readItem at h
  split at h
  · split at h
    · cases h
      have := (List.dropWhile_sublist (fun x => decide (x ≠ '\n')) (l := r)).length_le
      rw [List.length_drop]
      omega
    · cases h
  · split at h
    · split at h
      · cases h
      · next hn =>
        have := length_textUntil hn
        cases h
        rw [List.length_drop]
        omega
    · split at h
      · cases h
      · next hk =>
        have h1 := length_textUntil hk
        split at h
        · cases h
        · split at h
          · cases h
          · next hr =>
            rw [hr, List.length_cons, List.length_cons] at h1
            obtain ⟨⟨v, rest'⟩, hv, he⟩ := exists_of_map_ok h
            have := length_readValue hv
            cases he
            dsimp only
            omega

theorem length_skipBlanks (fresh : Bool) (s : List Char) :
    (skipBlanks fresh s).chars.length ≤ s.length := by
  fun_induction skipBlanks fresh s <;> grind

def items (fresh : Bool) (s : List Char) : Except Malformed (List Item) :=
  match h : skipBlanks fresh s with
  | ⟨[], _⟩ => .ok []
  | ⟨c :: r, fresh'⟩ => match hi : readItem fresh' c r with
    | .error e => .error e
    | .ok (i, rest) =>
      have : rest.chars.length < s.length := by
        have h1 := length_skipBlanks fresh s
        have h2 := length_readItem hi
        rw [h] at h1
        simp only [List.length_cons] at h1
        omega
      (items rest.fresh rest.chars).map (i :: ·)
termination_by s.length

/-- Keys and values in the order they stand. -/
abbrev Properties := List (String × String)

/-- Properties before the first section, and the sections. -/
structure Sections where
  general : Properties
  named : List (String × Properties)
  deriving DecidableEq, Repr

def Sections.cons (i : Item) (s : Sections) : Sections :=
  match i with
  | .comment => s
  | .property key value => ⟨(key, value) :: s.general, s.named⟩
  | .section name => ⟨[], (name, s.general) :: s.named⟩

def read (s : List Char) : Except Malformed Sections :=
  (items true s).map (·.foldr Sections.cons ⟨[], []⟩)

end WebTestbed.Ini
