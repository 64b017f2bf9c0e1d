import WebTestbed.Shell.Lexer

/-! Reading scripts. -/
namespace WebTestbed.Shell

/-- Reading takes words and signs away, or fails at a line. -/
abbrev Read := StateT (List Lexeme) (Except (Nat × SyntaxError))

def keywords : List String :=
  ["!", "\x7b", "\x7d", "case", "do", "done", "elif", "else", "esac", "fi", "for", "if", "in",
    "then", "until", "while"]

def isListEnd (s : String) : Bool :=
  ["then", "else", "elif", "fi", "do", "done", "esac", "\x7d", ")", ";;"].contains s

def Token.isEnding : Token → Bool
  | .ending => true
  | _ => false

def Token.describe : Token → String
  | .word w =>
    match Word.bare? w with
    | some s => if keywords.contains s then "\"" ++ s ++ "\"" else "word"
    | none => "word"
  | .sign s => "\"" ++ s ++ "\""
  | .redirect _ | .toward .. => "redirection"
  | .newline => "newline"
  | .broken _ | .ending => "end of file"

namespace Read

def next : Read Lexeme :=
  return (← get).head?.getD ⟨1, .ending⟩

def fail (wanted : Option String) : Read α := do
  let l ← next
  match l.token with
  | .broken e => throw (l.line, e)
  | .newline => throw (l.line + 1, .unexpected l.token.describe wanted)
  | t => throw (l.line, .unexpected t.describe wanted)

/-- The next word, if it is written without quotes, or the next sign. -/
def peek : Read String := do
  match (← next).token with
  | .word w => return (Word.bare? w).getD ""
  | .sign s => return s
  | .newline => return "\n"
  | _ => return ""

def skip : Read Unit :=
  modify List.tail

def expect (s : String) : Read Unit := do
  if (← peek) = s then skip else fail (some ("\"" ++ s ++ "\""))

def word? : Read (Option Word) := do
  match (← next).token with
  | .word w =>
    skip
    return some w
  | _ => return none

def word (wanted : Option String) : Read Word := do
  match ← word? with
  | some w => return w
  | none => fail wanted

def skipNewlines : Read Unit :=
  modify fun l => l.dropWhile fun x => x.token matches .newline

end Read

def assignment? (w : Word) : Option (String × Word) :=
  match w with
  | ⟨.text s, false⟩ :: r =>
    match Text.cut '=' s.toList with
    | some (name, value) =>
      if isName name then
        some (String.ofList name,
          if value.isEmpty then r else ⟨.text (String.ofList value), false⟩ :: r)
      else none
    | none => none
  | _ => none

def readRedirects : Nat → Read (List Redirect)
  | 0 => Read.fail none
  | fuel + 1 => do
    match (← Read.next).token with
    | .redirect r =>
      Read.skip
      return r :: (← readRedirects fuel)
    | .toward n source =>
      Read.skip
      let w ← Read.word none
      return ⟨n, source w⟩ :: (← readRedirects fuel)
    | _ => return []

/-- Reads the rest of a simple command; assignments come before its words. -/
def readCall (line : Nat) : Nat → List (String × Word) → List Word → List Redirect → Read Command
  | 0, _, _, _ => Read.fail none
  | fuel + 1, assignments, words, redirects => do
    match (← Read.next).token with
    | .word w =>
      Read.skip
      match if words.isEmpty then assignment? w else none with
      | some a => readCall line fuel (assignments ++ [a]) words redirects
      | none => readCall line fuel assignments (words ++ [w]) redirects
    | .redirect _ | .toward .. =>
      readCall line fuel assignments words (redirects ++ (← readRedirects ((← get).length + 1)))
    | .broken _ => Read.fail none
    | _ =>
      if assignments.isEmpty && words.isEmpty && redirects.isEmpty then Read.fail none
      else return .call line assignments words redirects

def readWords : Nat → Read (List Word)
  | 0 => Read.fail none
  | fuel + 1 => do
    match ← Read.word? with
    | some w => return w :: (← readWords fuel)
    | none => return []

def readPatterns : Nat → Read (List Word)
  | 0 => Read.fail none
  | fuel + 1 => do
    let w ← Read.word (some "\")\"")
    match ← Read.peek with
    | "|" =>
      Read.skip
      return w :: (← readPatterns fuel)
    | _ =>
      Read.expect ")"
      return [w]

mutual

/-- Reads commands up to a word or sign that cannot start one. -/
def readList : Nat → Read Command
  | 0 => Read.fail none
  | fuel + 1 => do
    Read.skipNewlines
    if (← Read.next).token.isEnding || isListEnd (← Read.peek) then return .nothing
    let c ← readChain fuel
    match ← Read.peek with
    | "&" =>
      Read.skip
      return .seq (.background c) (← readList fuel)
    | ";" | "\n" =>
      Read.skip
      return .seq c (← readList fuel)
    | _ => return c

def readChain : Nat → Read Command
  | 0 => Read.fail none
  | fuel + 1 => do readChainFrom fuel (← readPipeline fuel)

def readChainFrom : Nat → Command → Read Command
  | 0, _ => Read.fail none
  | fuel + 1, c => do
    match ← Read.peek with
    | "&&" =>
      Read.skip
      Read.skipNewlines
      readChainFrom fuel (.both c (← readPipeline fuel))
    | "||" =>
      Read.skip
      Read.skipNewlines
      readChainFrom fuel (.either c (← readPipeline fuel))
    | _ => return c

def readPipeline : Nat → Read Command
  | 0 => Read.fail none
  | fuel + 1 => do
    if (← Read.peek) = "!" then
      Read.skip
      return .not (← readPipeline fuel)
    readPipes fuel (← readCommand fuel)

def readPipes : Nat → Command → Read Command
  | 0, _ => Read.fail none
  | fuel + 1, c => do
    if (← Read.peek) = "|" then
      Read.skip
      Read.skipNewlines
      readPipes fuel (.pipe c (← readCommand fuel))
    else return c

def readBranch : Nat → Read Command
  | 0 => Read.fail none
  | fuel + 1 => do
    let test ← readBody fuel
    Read.expect "then"
    let c ← readBody fuel
    match ← Read.peek with
    | "elif" =>
      Read.skip
      return .branch test c (← readBranch fuel)
    | "else" =>
      Read.skip
      let d ← readBody fuel
      Read.expect "fi"
      return .branch test c d
    | _ =>
      Read.expect "fi"
      return .branch test c .nothing

/-- Reads a list of commands that is not empty, unless the text ends. -/
def readBody : Nat → Read Command
  | 0 => Read.fail none
  | fuel + 1 => do
    Read.skipNewlines
    if isListEnd (← Read.peek) then Read.fail none else readList fuel

def readCases : Nat → Read (List (List Word × Command))
  | 0 => Read.fail none
  | fuel + 1 => do
    Read.skipNewlines
    if (← Read.peek) = "esac" then
      Read.skip
      return []
    if (← Read.peek) = "(" then Read.skip
    let patterns ← readPatterns fuel
    let c ← readList fuel
    match ← Read.peek with
    | ";;" => Read.skip
    | "esac" => pure ()
    | _ => Read.expect ";;"
    return (patterns, c) :: (← readCases fuel)

def readForEach : Nat → Read Command
  | 0 => Read.fail none
  | fuel + 1 => do
    let l ← Read.next
    let name := match l.token with
      | .word w => if (Word.literal w).2 then "" else (Word.literal w).1
      | _ => ""
    if !isName name.toList then throw (l.line, .loopVariable)
    Read.skip
    Read.skipNewlines
    let words ← if (← Read.peek) = "in" then
        Read.skip
        let words ← readWords ((← get).length + 1)
        let after ← Read.peek
        if after ≠ "\n" ∧ after ≠ ";" then Read.fail none
        pure (some words)
      else pure none
    if (← Read.peek) = ";" then Read.skip
    Read.skipNewlines
    Read.expect "do"
    let body ← readBody fuel
    Read.expect "done"
    return .forEach name words body

def readCompound : Nat → String → Read Command
  | 0, _ => Read.fail none
  | fuel + 1, first => do
    match first with
    | "if" => readBranch fuel
    | "while" | "until" =>
      let test ← readBody fuel
      Read.expect "do"
      let body ← readBody fuel
      Read.expect "done"
      return .loop (first == "until") test body
    | "for" => readForEach fuel
    | "case" =>
      let w ← Read.word (some "word")
      Read.skipNewlines
      Read.expect "in"
      return .select w (← readCases fuel)
    | "\x7b" =>
      let c ← readBody fuel
      Read.expect "\x7d"
      return c
    | _ =>
      let c ← readBody fuel
      Read.expect ")"
      return .subshell c

def readCommand : Nat → Read Command
  | 0 => Read.fail none
  | fuel + 1 => do
    let l ← Read.next
    let first ← Read.peek
    if ["if", "while", "until", "for", "case", "\x7b", "("].contains first then
      Read.skip
      let c ← readCompound fuel first
      let redirects ← readRedirects ((← get).length + 1)
      return if redirects.isEmpty then c else .redirected c redirects
    else if keywords.contains first then Read.fail none
    else match (← get).map Lexeme.token with
      | .word w :: .sign "(" :: _ =>
        modify (·.drop 2)
        match ← Read.peek with
        | ")" => Read.skip
        | _ =>
          let l ← Read.next
          match l.token with
          | .word _ => throw (l.line, .unexpected "word" (some "\")\""))
          | _ => Read.fail (some "\")\"")
        Read.skipNewlines
        return .define (Word.literal w).1 (← readCommand fuel)
      | _ => readCall l.line ((← get).length + 1) [] [] []

end

def readLine : Nat → Read Command
  | 0 => Read.fail none
  | fuel + 1 => do
    let c ← readChain fuel
    let l ← Read.next
    match ← Read.peek with
    | "&" | ";" =>
      let c := if (← Read.peek) = "&" then Command.background c else c
      Read.skip
      match (← Read.next).token with
      | .newline =>
        Read.skip
        return c
      | .ending => return c
      | _ => return .seq c (← readLine fuel)
    | "\n" =>
      Read.skip
      return c
    | _ => if l.token.isEnding then return c else Read.fail none

/-- Reads the commands of a script, a line at a time. -/
def readLines : Nat → List Lexeme → Script
  | 0, _ => ⟨[], none⟩
  | fuel + 1, l =>
    let l := l.dropWhile fun x => x.token matches .newline
    if (l.head?.map (·.token.isEnding)).getD true then ⟨[], none⟩
    else match (readLine (8 * l.length + 8)).run l with
      | .error e => ⟨[], some e⟩
      | .ok (c, rest) =>
        let s := readLines fuel rest
        ⟨c :: s.commands, s.error⟩

def readScript (s : String) : Script :=
  let l := lexemes (s.toList.length + 1) 1 s.toList
  readLines (l.length + 1) l

end WebTestbed.Shell
