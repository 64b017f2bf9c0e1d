import WebTestbed.Shell.Lexer
import WebTestbed.Text.Blank
import WebTestbed.Text.Numeral

/-! Formulas in scripts, and their values: whole numbers of 64 bits. -/
namespace WebTestbed.Shell

inductive Sign where
  | add | sub | mul | div | rem | shiftLeft | shiftRight | bitAnd | bitOr | bitXor
  | less | lessEqual | greater | greaterEqual | equal | unequal | both | either
  deriving DecidableEq, Repr

inductive Formula where
  | number (n : Int)
  | parameter (name : String)
  | negative (f : Formula)
  | not (f : Formula)
  | complement (f : Formula)
  | binary (s : Sign) (f g : Formula)
  | choice (test f g : Formula)
  /-- A new value for a variable, which its old value and the sign make if there is one. -/
  | assign (name : String) (s : Option Sign) (f : Formula)
  deriving Repr

inductive FormulaError where
  | noValue
  | tooLong
  | openParenthesis
  | divisionByZero
  | notNumeric (s : String)
  deriving DecidableEq, Repr

def FormulaError.message (e : FormulaError) (formula : String) : String :=
  let located (s : String) := "arithmetic expression: " ++ s ++ ": \"" ++ formula ++ "\""
  match e with
  | noValue => located "expecting primary"
  | tooLong => located "expecting EOF"
  | openParenthesis => located "expecting ')'"
  | divisionByZero => located "division by zero"
  | notNumeric s => "Illegal number: " ++ s

/-- The signs, with how tightly they bind; a sign comes before the signs it starts with. -/
def signs : List (String × Nat × Sign) := [
  ("||", 1, .either), ("&&", 2, .both), ("==", 6, .equal), ("!=", 6, .unequal),
  ("<<", 8, .shiftLeft), (">>", 8, .shiftRight), ("<=", 7, .lessEqual), (">=", 7, .greaterEqual),
  ("<", 7, .less), (">", 7, .greater), ("|", 3, .bitOr), ("^", 4, .bitXor), ("&", 5, .bitAnd),
  ("+", 9, .add), ("-", 9, .sub), ("*", 10, .mul), ("/", 10, .div), ("%", 10, .rem)]

/-- The sign at the start of a text, and what follows it. An equals sign after a sign belongs to an
assignment. -/
def sign? (s : List Char) : Option ((Nat × Sign) × List Char) :=
  (signs.find? fun sign => sign.1.toList.isPrefixOf s).map fun sign =>
    (sign.2, s.drop sign.1.length)

def assignment (s : List Char) : Option (Option Sign × List Char) :=
  match s with
  | '=' :: '=' :: _ => none
  | '=' :: r => some (none, r)
  | _ =>
    if [['<', '='], ['>', '='], ['!', '=']].any (·.isPrefixOf s) then none
    else match sign? s with
      | some ((_, sign), '=' :: r) =>
        if sign = .both || sign = .either || sign = .equal then none else some (some sign, r)
      | _ => none

/-- The value of a numeral: a zero at its start asks for base 8, and an x after it for base 16. -/
def numeral? (s : List Char) : Option Nat :=
  let inBase (base : Nat) (digits : List Char) : Option Nat :=
    digits.foldlM (fun n c => do
      let d := if c.isDigit then c.toNat - '0'.toNat
        else if c.isAlpha then c.toLower.toNat - 'a'.toNat + 10 else base
      if d < base then some (base * n + d) else none) 0
  match s with
  | '0' :: 'x' :: c :: r | '0' :: 'X' :: c :: r => inBase 16 (c :: r)
  | '0' :: r => inBase 8 r
  | c :: r => inBase 10 (c :: r)
  | [] => none

mutual

def readSimple : Nat → List Char → Except FormulaError (Scanned Formula)
  | 0, _ => .error .noValue
  | fuel + 1, s =>
    match s.dropWhile Text.isBlank with
    | '-' :: r => do
      let (f, r) ← readSimple fuel r
      return (.negative f, r)
    | '+' :: r => readSimple fuel r
    | '!' :: r => do
      let (f, r) ← readSimple fuel r
      return (.not f, r)
    | '~' :: r => do
      let (f, r) ← readSimple fuel r
      return (.complement f, r)
    | '(' :: r => do
      let (f, r) ← readChoice fuel r
      match r.dropWhile Text.isBlank with
      | ')' :: r => return (f, r)
      | _ => throw .openParenthesis
    | c :: r =>
      let s := c :: r
      if c.isDigit then
        let digits := s.takeWhile fun d => d.isAlphanum
        match numeral? digits with
        | some n => .ok (.number n, s.drop digits.length)
        | none => .error .tooLong
      else if isNameStart c then
        let name := String.ofList (s.takeWhile isNameChar)
        let rest := s.dropWhile isNameChar
        match assignment (rest.dropWhile Text.isBlank) with
        | some (sign, r) => do
          let (f, r) ← readChoice fuel r
          return (.assign name sign f, r)
        | none => .ok (.parameter name, rest)
      else .error .noValue
    | [] => .error .noValue

/-- A formula whose signs bind at least so much. -/
def readBinary : Nat → Nat → List Char → Except FormulaError (Scanned Formula)
  | 0, _, _ => .error .noValue
  | fuel + 1, least, s => do
    let (f, r) ← readSimple fuel s
    readBinaryFrom fuel least f r

def readBinaryFrom : Nat → Nat → Formula → List Char → Except FormulaError (Scanned Formula)
  | 0, _, _, _ => .error .noValue
  | fuel + 1, least, f, s => do
    match sign? (s.dropWhile Text.isBlank) with
    | some ((binding, sign), r) =>
      if least ≤ binding then
        let (g, r) ← readBinary fuel (binding + 1) r
        readBinaryFrom fuel least (.binary sign f g) r
      else return (f, s)
    | none => return (f, s)

def readChoice : Nat → List Char → Except FormulaError (Scanned Formula)
  | 0, _ => .error .noValue
  | fuel + 1, s => do
    let (test, r) ← readBinary fuel 1 s
    match r.dropWhile Text.isBlank with
    | '?' :: r => do
      let (f, r) ← readChoice fuel r
      match r.dropWhile Text.isBlank with
      | ':' :: r => do
        let (g, r) ← readChoice fuel r
        return (.choice test f g, r)
      | _ => throw .noValue
    | _ => return (test, r)

end

def Formula.read (s : String) : Except FormulaError Formula := do
  let (f, r) ← readChoice (4 * s.length + 4) s.toList
  if r.all Text.isBlank then return f else throw .tooLong

/-- The number of 64 bits that has the same last bits. -/
def wrapped (n : Int) : Int :=
  n.bmod (Nat.pow 2 64)

def onBits (f : Nat → Nat → Nat) (a b : Int) : Int :=
  wrapped (f (a % Int.pow 2 64).toNat (b % Int.pow 2 64).toNat)

def Sign.apply (s : Sign) (a b : Int) : Except FormulaError Int :=
  let truth (t : Bool) : Except FormulaError Int := .ok (if t then 1 else 0)
  match s with
  | add => .ok (wrapped (a + b))
  | sub => .ok (wrapped (a - b))
  | mul => .ok (wrapped (a * b))
  | div => if b = 0 then .error .divisionByZero else .ok (wrapped (a.tdiv b))
  | rem => if b = 0 then .error .divisionByZero else .ok (a.tmod b)
  | shiftLeft => .ok (wrapped (a * Int.pow 2 (b % 64).toNat))
  | shiftRight => .ok (a.fdiv (Int.pow 2 (b % 64).toNat))
  | bitAnd => .ok (onBits (· &&& ·) a b)
  | bitOr => .ok (onBits (· ||| ·) a b)
  | bitXor => .ok (onBits (· ^^^ ·) a b)
  | less => truth (a < b)
  | lessEqual => truth (a ≤ b)
  | greater => truth (b < a)
  | greaterEqual => truth (b ≤ a)
  | equal => truth (a == b)
  | unequal => truth (a != b)
  | both => truth (a != 0 && b != 0)
  | either => truth (a != 0 || b != 0)

def numberOf (s : String) : Except FormulaError Int :=
  let read (s : List Char) : Except FormulaError Int :=
    match numeral? s with
    | some n => .ok (wrapped n)
    | none => .error (.notNumeric (String.ofList s))
  match Text.trim s.toList with
  | [] => .ok 0
  | '-' :: r => (read r).map (- ·)
  | '+' :: r => read r
  | r => read r

def Formula.eval (vars : List (String × String)) :
    Formula → Except FormulaError (Int × List (String × String))
  | number n => .ok (wrapped n, vars)
  | parameter name => (numberOf ((vars.lookup name).getD "")).map (·, vars)
  | negative f => (eval vars f).map fun p => (wrapped (-p.1), p.2)
  | not f => (eval vars f).map fun p => (if p.1 = 0 then 1 else 0, p.2)
  | complement f => (eval vars f).map fun p => (-p.1 - 1, p.2)
  | binary .both f g => do
    let (a, vars) ← eval vars f
    if a = 0 then return (0, vars)
    let (b, vars) ← eval vars g
    return (if b = 0 then 0 else 1, vars)
  | binary .either f g => do
    let (a, vars) ← eval vars f
    if a ≠ 0 then return (1, vars)
    let (b, vars) ← eval vars g
    return (if b = 0 then 0 else 1, vars)
  | binary s f g => do
    let (a, vars) ← eval vars f
    let (b, vars) ← eval vars g
    return (← s.apply a b, vars)
  | choice test f g => do
    let (a, vars) ← eval vars test
    if a ≠ 0 then eval vars f else eval vars g
  | assign name s f => do
    let (n, rest) ← eval vars f
    let n ← match s with
      | some s => s.apply (← numberOf ((vars.lookup name).getD "")) n
      | none => pure n
    return (n, (name, toString n) :: rest.filter (·.1 ≠ name))

end WebTestbed.Shell
