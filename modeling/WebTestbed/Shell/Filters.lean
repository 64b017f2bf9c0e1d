import WebTestbed.Pattern.Reader
import WebTestbed.Shell.Format
import WebTestbed.Shell.Program
import WebTestbed.Text.Blank

/-! Programs that make texts of texts. -/
namespace WebTestbed.Shell.Program

def cat : Program := fun args =>
  forContents "cat" (args.filter (· ≠ "-u")) fun _ content => Step.print content

inductive Amount where
  | first (n : Nat)
  | without (n : Nat)
  /-- All from a place on, which counts from 1. -/
  | since (n : Nat)
  deriving DecidableEq, Repr

def Amount.read? (s : String) : Option Amount :=
  match s.toList with
  | '-' :: r => (Numeral.read? r).map .without
  | '+' :: r => (Numeral.read? r).map .since
  | r => (Numeral.read? r).map .first

/-- What the arguments of `head` and `tail` ask for: how much, and whether it counts bytes. An
amount that is no number is an error. -/
def readAmount : List String → Except (Bool × String) (Amount × Bool × List String)
  | "-n" :: n :: r => amount false n r
  | "-c" :: n :: r => amount true n r
  | a :: r =>
    match a.toList with
    | '-' :: 'n' :: n => amount false (String.ofList n) r
    | '-' :: 'c' :: n => amount true (String.ofList n) r
    | '-' :: n => match Numeral.read? n with
      | some n => .ok (.first n, false, r)
      | none => .ok (.first 10, false, a :: r)
    | _ => .ok (.first 10, false, a :: r)
  | [] => .ok (.first 10, false, [])
where
  amount (inBytes : Bool) (s : String) (r : List String) :=
    match Amount.read? s with
    | some a => .ok (a, inBytes, r)
    | none => .error (inBytes, s)

def part (program : String) (args : List String)
    (choose : Amount → {α : Type} → List α → List α) : Step Nat := do
  match readAmount args with
  | .error (inBytes, s) =>
    let unit := if inBytes then "bytes" else "lines"
    complain program ("invalid number of " ++ unit ++ ": '" ++ s ++ "'")
    return 1
  | .ok (.first n, true, ["/dev/zero"]) =>
    Step.print (List.replicate n 0)
    return 0
  | .ok (amount, inBytes, names) =>
    forContentsSaying (fun name => "cannot open '" ++ name ++ "' for reading") program names
      fun _ content =>
      if inBytes then Step.print (choose amount content)
      else do
        let whole := content.isEmpty || content.getLast? = some 10
        let lines := linesOf content
        let parts := lines.zipIdx.map fun (l, i) =>
          if whole || i + 1 < lines.length then l ++ [10] else l
        Step.print (choose amount parts).flatten

def head : Program := fun args =>
  part "head" args fun a _ l =>
    match a with
    | .first n | .since n => l.take n
    | .without n => l.take (l.length - n)

def tail : Program := fun args =>
  part "tail" args fun a _ l =>
    match a with
    | .first n | .without n => l.drop (l.length - n)
    | .since n => l.drop (n - 1)

def wc : Program := fun args => do
  let names := operands args
  let asked := args.filter isOption
  let wanted (letter : Char) : Bool := if asked.isEmpty then letter ≠ 'm' else hasOption args letter
  forContents "wc" names fun name content => do
    let counts := [('l', content.count 10), ('w', (Text.words (Utf8.lossyString content)).length),
      ('m', (Utf8.lossy content).length), ('c', content.length)].filter (wanted ·.1)
    let texts := counts.map fun c => toString c.2
    let width := if texts.length = 1 then 0
      else if names.isEmpty then 7 else (toString content.length).length
    let padded := texts.map fun t => "".pushn ' ' (width - t.length) ++ t
    Step.printText (Text.joinWith " " padded ++ (if names.isEmpty then "" else " " ++ name) ++ "\n")

def classBytes (name : String) : Bytes :=
  let upTo (a b : UInt8) : Bytes :=
    (List.range (b.toNat - a.toNat + 1)).map fun i => a + UInt8.ofNat i
  match name with
  | "upper" => upTo 65 90
  | "lower" => upTo 97 122
  | "alpha" => upTo 65 90 ++ upTo 97 122
  | "digit" => upTo 48 57
  | "alnum" => upTo 48 57 ++ upTo 65 90 ++ upTo 97 122
  | "space" => upTo 9 13 ++ [32]
  | _ => []

/-- The bytes of a set in which a hyphen stands for all between its neighbours. -/
def spread : Bytes → Bytes
  | a :: 45 :: b :: r =>
    if a ≤ b then (List.range (b.toNat - a.toNat + 1)).map (fun i => a + UInt8.ofNat i) ++ spread r
    else a :: 45 :: b :: spread r
  | a :: r => a :: spread r
  | [] => []

def byteSet (s : String) : Bytes :=
  if s.startsWith "[:" && s.endsWith ":]" then
    classBytes (String.ofList ((s.toList.drop 2).take (s.length - 4)))
  else spread (unescape false (s.length + 1) s.toList).1

def squeeze (set : Bytes) : Bytes → Bytes
  | a :: b :: r =>
    if a = b && set.contains a then squeeze set (b :: r) else a :: squeeze set (b :: r)
  | r => r

def tr : Program := fun args => do
  let others := hasOption (args.take 1) 'c'
  let sets := operands args
  let inSet (set : Bytes) (b : UInt8) : Bool := set.contains b != others
  match sets, hasOption (args.take 1) 'd', hasOption (args.take 1) 's' with
  | [set], true, _ =>
    let content ← Step.takeInput
    Step.print (content.filter (!inSet (byteSet set) ·))
    return 0
  | [set], false, true =>
    let content ← Step.takeInput
    Step.print (squeeze (byteSet set) content)
    return 0
  | [source, target], false, squeezed =>
    let content ← Step.takeInput
    let source := byteSet source
    let target := byteSet target
    let change (b : UInt8) : UInt8 :=
      if others then if source.contains b then b else target.getLast?.getD b
      else match source.idxOf? b with
        | some i => (target[i]?.or target.getLast?).getD b
        | none => b
    let changed := content.map change
    Step.print (if squeezed then squeeze target changed else changed)
    return 0
  | [], _, _ => usage "tr" "missing operand"
  | set :: _, _, _ =>
    complain "tr" ("missing operand after '" ++ set ++ "'")
    Step.complain "Two strings must be given when translating."
    Step.complain "Try 'tr --help' for more information."
    return 1

def bytesBefore : Bytes → Bytes → Bool
  | [], _ => true
  | _ :: _, [] => false
  | a :: r, b :: s => a < b || (a = b && bytesBefore r s)

def startingNumber (l : Bytes) : Int :=
  match (Utf8.lossy l).dropWhile (· = ' ') with
  | '-' :: r => -Numeral.value (r.takeWhile Char.isDigit)
  | r => Numeral.value (r.takeWhile Char.isDigit)

def withoutRepeats : List Bytes → List Bytes
  | a :: b :: r => if a = b then withoutRepeats (b :: r) else a :: withoutRepeats (b :: r)
  | r => r

def sort : Program := fun args => do
  let mut lines := []
  let mut status := 0
  for name in if (operands args).isEmpty then ["-"] else operands args do
    match ← contentOf name with
    | .ok content => lines := lines ++ linesOf content
    | .error e =>
      complain "sort" ("cannot read: " ++ name ++ ": " ++ e.reason)
      status := 2
  if status ≠ 0 then return status
  let before (a b : Bytes) : Bool :=
    if hasOption args 'n' && startingNumber a ≠ startingNumber b then
      startingNumber a < startingNumber b
    else bytesBefore a b
  let sorted := lines.mergeSort before
  let sorted := if hasOption args 'r' then sorted.reverse else sorted
  printLines (if hasOption args 'u' then withoutRepeats sorted else sorted)
  return 0

def listed (limit : Nat) (s : String) : List Nat :=
  let range (s : List Char) : Nat × Nat :=
    match Text.cut '-' s with
    | some (a, b) =>
      (if a.isEmpty then 1 else Numeral.value a, if b.isEmpty then limit else Numeral.value b)
    | none => (Numeral.value s, Numeral.value s)
  let ranges := (Text.pieces ',' s.toList).map range
  (List.range limit).filterMap fun i =>
    if ranges.any fun r => r.1 ≤ i + 1 && i + 1 ≤ r.2 then some i else none

/-- The value of an option, which follows it or is part of its word, and the other arguments. -/
def optionValue (letter : Char) : List String → Option String × List String
  | [] => (none, [])
  | a :: r =>
    if a = String.ofList ['-', letter] then (r.head?, r.tail)
    else if a.startsWith (String.ofList ['-', letter]) then (some (a.drop 2).toString, r)
    else
      let (v, rest) := optionValue letter r
      (v, a :: rest)

def cut : Program := fun args => do
  let (delimiter, args) := optionValue 'd' args
  let (fields, args) := optionValue 'f' args
  let (places, args) := optionValue 'c' args
  let (places, args) := if places.isSome then (places, args) else optionValue 'b' args
  let sep := ((delimiter.getD "\t").toList.head?).getD '\t'
  let choose (l : Bytes) : List Bytes :=
    match fields, places with
    | some list, _ =>
      let pieces := Text.piecesString sep (Utf8.lossyString l)
      if pieces.length = 1 then if hasOption args 's' then [] else [l]
      else
        let chosen := (listed pieces.length list).filterMap (pieces[·]?)
        [Utf8.encode (Text.joinWith (String.ofList [sep]) chosen)]
    | none, some list => [(listed l.length list).filterMap (l[·]?)]
    | none, none => [l]
  if fields.isNone && places.isNone then
    return ← usage "cut" "you must specify a list of bytes, characters, or fields"
  forContents "cut" (operands args) fun _ content => printLines ((linesOf content).flatMap choose)

/-- Changes a pattern in which some signs have their meaning only behind a backslash. -/
def plainSigns : List Char → List Char
  | '\\' :: c :: r =>
    (if "+?|()\x7b\x7d".toList.contains c then [c] else ['\\', c]) ++ plainSigns r
  | c :: r => (if "+?|()\x7b\x7d".toList.contains c then ['\\', c] else [c]) ++ plainSigns r
  | [] => []

def escaped (s : List Char) : List Char :=
  s.flatMap fun c => if c.isAlphanum || c.isWhitespace || 128 ≤ c.toNat then [c] else ['\\', c]

def grep : Program := fun args => do
  let (given, args) := optionValue 'e' args
  let words := operands args
  let (text, names) := match given with
    | some p => (some p, words)
    | none => (words.head?, words.tail)
  match text with
  | none =>
    Step.complain "Usage: grep [OPTION]... PATTERNS [FILE]..."
    Step.complain "Try 'grep --help' for more information."
    return 2
  | some text =>
    let source := if hasOption args 'F' then escaped text.toList
      else if hasOption args 'E' then text.toList else plainSigns text.toList
    let mode := if hasOption args 'i' then "(?i)" else ""
    match Pattern.read? (mode ++ String.ofList source) with
    | none =>
      complain "grep" "Invalid regular expression"
      return 2
    | some p =>
      let fitting (l : Bytes) : Bool := p.occursIn (Utf8.lossyString l) != hasOption args 'v'
      let mut found := false
      let mut failed := false
      for name in if names.isEmpty then ["-"] else names do
        match ← contentOf name with
        | .error e =>
          complain "grep" (name ++ ": " ++ e.reason)
          failed := true
        | .ok content =>
          let lines := (linesOf content).zipIdx.filter (fitting ·.1)
          found := found || !lines.isEmpty
          let heading := Utf8.encode (if 1 < names.length then name ++ ":" else "")
          if !hasOption args 'q' then
            if hasOption args 'c' then
              Step.print (heading ++ Utf8.encode (toString lines.length ++ "\n"))
            else if hasOption args 'l' then
              if !lines.isEmpty then Step.printText (name ++ "\n")
            else
              let number (i : Nat) : Bytes :=
                Utf8.encode (if hasOption args 'n' then toString (i + 1) ++ ":" else "")
              printLines (lines.map fun (l, i) => heading ++ number i ++ l)
      return if failed then 2 else if found then 0 else 1

def tee : Program := fun args => do
  let content ← Step.takeInput
  Step.print content
  let mut status := 0
  for name in operands args do
    if name ≠ "/dev/null" then
      let m ← get
      let change := if hasOption args 'a' then m.files.append else m.files.write
      match change ⟨name⟩ content with
      | .ok t => set { m with files := t }
      | .error e =>
        complain "tee" (name ++ ": " ++ e.reason)
        status := 1
  return status

end WebTestbed.Shell.Program
