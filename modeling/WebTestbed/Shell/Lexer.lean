import WebTestbed.Shell.Grammar
import WebTestbed.Text.Cut

/-! The words and signs of a script. -/
namespace WebTestbed.Shell

inductive Token where
  | word (w : Word)
  | sign (s : String)
  | redirect (r : Redirect)
  | toward (descriptor : Nat) (source : Word → Source)
  | newline
  | broken (e : SyntaxError)
  | ending

structure Lexeme where
  line : Nat
  token : Token

/-- What a start of a text is read as, and the rest of the text. -/
abbrev Scanned (α : Type) := α × List Char

def isBreak (c : Char) : Bool :=
  c = ' ' || c = '\t' || c = '\n' || c = ';' || c = '&' || c = '|' || c = '<' || c = '>' ||
    c = '(' || c = ')'

def isNameStart (c : Char) : Bool :=
  c.isAlpha || c = '_'

def isNameChar (c : Char) : Bool :=
  c.isAlphanum || c = '_'

def isName (s : List Char) : Bool :=
  match s with
  | [] => false
  | c :: r => isNameStart c && r.all isNameChar

structure Brackets where
  opening : Char
  closing : Char
  quotes : List Char := ['\'', '"']

def Brackets.parentheses : Brackets := { opening := '(', closing := ')' }

/-- Single quotes mean nothing in braces that stand between double quotes. -/
def Brackets.braces (quoted : Bool) : Brackets :=
  { opening := '{', closing := '}', quotes := if quoted then ['"'] else ['\'', '"'] }

/-- What is inside of brackets that are open `depth` times, and what follows it. Brackets do not
count in quotes or behind a backslash. -/
def inside (b : Brackets) (depth : Nat) (quote : Option Char) :
    List Char → Option (List Char × List Char)
  | [] => none
  | '\\' :: c :: r =>
    let quote := if quote = some '\'' && c = '\'' then none else quote
    (inside b depth quote r).map fun p => ('\\' :: c :: p.1, p.2)
  | c :: r =>
    let keep (p : List Char × List Char) := (c :: p.1, p.2)
    match quote with
    | some q => (inside b depth (if c = q then none else quote) r).map keep
    | none =>
      if c = b.closing then
        match depth with
        | 0 => some ([], r)
        | n + 1 => (inside b n none r).map keep
      else if b.quotes.contains c then (inside b depth (some c) r).map keep
      else (inside b (if c = b.opening then depth + 1 else depth) none r).map keep

def paramName (s : List Char) : List Char :=
  match s with
  | [] => []
  | c :: r =>
    if c.isDigit then s.takeWhile Char.isDigit
    else if isNameStart c then c :: r.takeWhile isNameChar
    else if "@*#?$!-".toList.contains c then [c]
    else []

def braced (s : List Char) : Piece :=
  match s with
  | '#' :: c :: r =>
    if paramName (c :: r) = c :: r then .size (String.ofList (c :: r)) else .unknown
  | _ =>
    let name := paramName s
    let choice (c : Choice) (emptyToo : Bool) (word : List Char) : Piece :=
      .choice (String.ofList name) c emptyToo (String.ofList word)
    if name.isEmpty then .unknown
    else match s.drop name.length with
      | ':' :: '-' :: w => choice .otherwise true w
      | ':' :: '=' :: w => choice .assign true w
      | ':' :: '+' :: w => choice .ifSet true w
      | ':' :: '?' :: w => choice .required true w
      | '-' :: w => choice .otherwise false w
      | '=' :: w => choice .assign false w
      | '+' :: w => choice .ifSet false w
      | '?' :: w => choice .required false w
      | '#' :: '#' :: w => choice .dropLongStart false w
      | '%' :: '%' :: w => choice .dropLongEnd false w
      | '#' :: w => choice .dropStart false w
      | '%' :: w => choice .dropEnd false w
      | [] => .param (String.ofList name)
      | _ => .unknown

def dollar (quoted : Bool) (s : List Char) : Except SyntaxError (Scanned Piece) :=
  match s with
  | '(' :: '(' :: r =>
    match inside .parentheses 1 none r with
    | some (text, r) => .ok (.formula (String.ofList text.dropLast), r)
    | none => .error .openFormula
  | '(' :: r =>
    match inside .parentheses 0 none r with
    | some (text, r) => .ok (.output (String.ofList text), r)
    | none => .error (.unexpected "end of file" (some "\")\""))
  | '{' :: r =>
    match inside (.braces quoted) 0 none r with
    | some (text, r) => .ok (braced text, r)
    | none => .error .openBrace
  | c :: _ =>
    let name := if c.isDigit then [c] else paramName s
    if name.isEmpty then .ok (.text "$", s)
    else .ok (.param (String.ofList name), s.drop name.length)
  | [] => .ok (.text "$", [])

def backquoted : List Char → Option (List Char × List Char)
  | [] => none
  | '\x60' :: r => some ([], r)
  | '\\' :: c :: r =>
    (backquoted r).map fun p =>
      (if c = '\x60' || c = '\\' || c = '$' then c :: p.1 else '\\' :: c :: p.1, p.2)
  | c :: r => (backquoted r).map fun p => (c :: p.1, p.2)

def backquote (s : List Char) : Except SyntaxError (Scanned Piece) :=
  match backquoted s with
  | some (script, r) => .ok (.output (String.ofList script), r)
  | none => .error .openBackquote

/-- The parts of a text between double quotes, up to the closing one if there has to be one, and
what follows it. -/
def quotedParts (closed : Bool) : Nat → Word → List Char → Except SyntaxError (Scanned Word)
  | 0, _, _ => .error .openQuote
  | fuel + 1, parts, s =>
    let push (p : Piece) (r : List Char) := quotedParts closed fuel (⟨p, true⟩ :: parts) r
    match s with
    | [] => if closed then .error .openQuote else .ok (parts.reverse, [])
    | '"' :: r => if closed then .ok (parts.reverse, r) else push (.text "\"") r
    | '\\' :: '\n' :: r => quotedParts closed fuel parts r
    | '\\' :: c :: r =>
      if c = '$' || c = '\\' || c = '\x60' || (closed && c = '"') then
        push (.text (String.ofList [c])) r
      else push (.text "\\") (c :: r)
    | '$' :: r => do
      let (p, r) ← dollar true r
      push p r
    | '\x60' :: r => do
      let (p, r) ← backquote r
      push p r
    | c :: r => push (.text (String.ofList [c])) r

def wordParts (ends : Char → Bool) : Nat → Word → List Char → Except SyntaxError (Scanned Word)
  | 0, _, _ => .error .openQuote
  | fuel + 1, parts, s =>
    let push (p : Piece) (quoted : Bool) (r : List Char) :=
      wordParts ends fuel (⟨p, quoted⟩ :: parts) r
    match s with
    | [] => .ok (parts.reverse, [])
    | '\'' :: r =>
      match Text.cut '\'' r with
      | some (text, r) => push (.text (String.ofList text)) true r
      | none => .error .openQuote
    | '"' :: r => do
      let (inner, r) ← quotedParts true (r.length + 1) [] r
      wordParts ends fuel (inner.reverse ++ ⟨.text "", true⟩ :: parts) r
    | '\\' :: '\n' :: r => wordParts ends fuel parts r
    | '\\' :: c :: r => push (.text (String.ofList [c])) true r
    | '$' :: r => do
      let (p, r) ← dollar false r
      push p false r
    | '\x60' :: r => do
      let (p, r) ← backquote r
      push p false r
    | c :: r =>
      if ends c then .ok (parts.reverse, s)
      else
        let plain (d : Char) := !ends d && !"'\"\\$\x60".toList.contains d
        push (.text (String.ofList (c :: r.takeWhile plain))) false (r.dropWhile plain)

def readWord (s : List Char) : Except SyntaxError (Scanned Word) :=
  wordParts isBreak (s.length + 1) [] s

def Word.bare? : Word → Option String
  | [⟨.text s, false⟩] => some s
  | _ => none

def Word.literal (w : Word) : String × Bool :=
  (String.join (w.map fun p => match p.piece with
    | .text s => s
    | _ => ""), w.any (·.quoted))

/-- Splits a text after the line that is the given one, which is dropped. `change` is done to each
line first. -/
def bodyUntil (change : List Char → List Char) (mark : List Char) :
    Nat → List Char → List Char × List Char
  | 0, s => ([], s)
  | fuel + 1, s =>
    match Text.cut '\n' s with
    | none => if change s = mark then ([], []) else (change s, [])
    | some (line, r) =>
      if change line = mark then ([], r)
      else
        let (body, r) := bodyUntil change mark fuel r
        (change line ++ '\n' :: body, r)

/-- A redirection that takes the lines below it, up to its word. They are cut out of the text. -/
def hereDocument (change : List Char → List Char) (s : List Char) :
    Except SyntaxError (Scanned Redirect) := do
  let (w, r) ← readWord (s.dropWhile (· = ' '))
  let (mark, quoted) := Word.literal w
  let (line, below) := (Text.cut '\n' r).getD (r, [])
  let (body, below) := bodyUntil change mark.toList (below.length + 1) below
  let body ← if quoted then .ok [⟨Piece.text (String.ofList body), true⟩]
    else (quotedParts false (body.length + 1) [] body).map (·.1)
  return (⟨0, .content body⟩, line ++ '\n' :: below)

def redirection (descriptor : Option Nat) (s : List Char) : Except SyntaxError (Scanned Token) :=
  let toward (least : Nat) (source : Word → Source) (r : List Char) :
      Except SyntaxError (Scanned Token) :=
    .ok (.toward (descriptor.getD least) source, r)
  match s with
  | '<' :: '<' :: '-' :: r =>
    (hereDocument (·.dropWhile (· = '\t')) r).map fun p => (.redirect p.1, p.2)
  | '<' :: '<' :: r => (hereDocument id r).map fun p => (.redirect p.1, p.2)
  | '<' :: '&' :: r => toward 0 .same r
  | '<' :: r => toward 0 .read r
  | '>' :: '>' :: r => toward 1 .append r
  | '>' :: '&' :: r => toward 1 .same r
  | '>' :: '|' :: r | '>' :: r => toward 1 .write r
  | _ => .error (.unexpected "word" none)

def nextToken (s : List Char) : Except SyntaxError (Scanned Token) :=
  let word : Except SyntaxError (Scanned Token) := (readWord s).map fun p => (.word p.1, p.2)
  match s with
  | '&' :: '&' :: r => .ok (.sign "&&", r)
  | '|' :: '|' :: r => .ok (.sign "||", r)
  | ';' :: ';' :: r => .ok (.sign ";;", r)
  | '&' :: r => .ok (.sign "&", r)
  | '|' :: r => .ok (.sign "|", r)
  | ';' :: r => .ok (.sign ";", r)
  | '(' :: r => .ok (.sign "(", r)
  | ')' :: r => .ok (.sign ")", r)
  | '\n' :: r => .ok (.newline, r)
  | '<' :: _ | '>' :: _ => redirection none s
  | c :: d :: r =>
    if c.isDigit && (d = '<' || d = '>') then redirection (some (c.toNat - '0'.toNat)) (d :: r)
    else word
  | _ => word

/-- The words and signs of a script, with their lines, up to the first thing that is neither. -/
def lexemes : Nat → Nat → List Char → List Lexeme
  | 0, line, _ => [⟨line, .ending⟩]
  | fuel + 1, line, s =>
    match s with
    | [] => [⟨line, .ending⟩]
    | ' ' :: r | '\t' :: r => lexemes fuel line r
    | '\\' :: '\n' :: r => lexemes fuel (line + 1) r
    | '#' :: r => lexemes fuel line (r.dropWhile (· ≠ '\n'))
    | _ =>
      match nextToken s with
      | .error e => [⟨line + s.count '\n', .broken e⟩]
      | .ok (t, r) => ⟨line, t⟩ :: lexemes fuel (line + (s.count '\n' - r.count '\n')) r

end WebTestbed.Shell
