import WebTestbed.Shell.FilePrograms
import WebTestbed.Shell.Filters
import WebTestbed.Shell.Formula
import WebTestbed.Shell.Question
import WebTestbed.Text.Lines

/-! The programs that scripts call. -/
namespace WebTestbed.Shell

namespace Program

/-- Prints words; escapes are read if they are asked for, or always, as in the shell. -/
def echo (inShell : Bool) : Program := fun args => do
  let (line, escapes, words) := match args, inShell with
    | "-n" :: r, _ => (false, inShell, r)
    | "-e" :: r, false => (true, true, r)
    | "-E" :: r, false => (true, false, r)
    | "-ne" :: r, false | "-en" :: r, false => (false, true, r)
    | r, _ => (true, inShell, r)
  let text := Text.joinWith " " words
  let (bytes, goesOn) :=
    if escapes then unescape inShell (text.length + 1) text.toList else (Utf8.encode text, true)
  Step.print (bytes ++ if line && goesOn then [10] else [])
  return 0

def printf (inShell : Bool) : Program := fun args => do
  match if args.head? = some "--" then args.tail else args with
  | [] =>
    if inShell then
      Step.complainHere "printf: usage: printf format [arg ...]"
      return 2
    else usage "printf" "missing operand"
  | format :: rest =>
    let r := formatAll inShell format.toList (rest.length + 1) { rest := rest }
    Step.print r.bytes.reverse.flatten
    for e in r.faults.reverse do
      if inShell then Step.complainHere ("printf: " ++ e.shellMessage)
      else complain "printf" e.message
    return if r.faults.isEmpty then 0 else if inShell && r.faults.any (·.isFatal) then 2 else 1

def countFrom (first step last : Int) : Nat → List Int
  | 0 => []
  | fuel + 1 =>
    if (0 ≤ step && first ≤ last) || (step < 0 && last ≤ first) then
      first :: countFrom (first + step) step last fuel
    else []

def seq : Program := fun args => do
  match args.find? fun s => s.toInt?.isNone with
  | some s => usage "seq" ("invalid floating point argument: '" ++ s ++ "'")
  | none =>
    let print (first step last : Int) : Step Nat := do
      let numbers := countFrom first step last ((last - first).natAbs + 1)
      Step.printText (Text.unlines (numbers.map toString))
      return 0
    match args.filterMap String.toInt? with
    | [] => usage "seq" "missing operand"
    | [l] => print 1 1 l
    | [f, l] => print f 1 l
    | [f, 0, _] => usage "seq" ("invalid Zero increment value: '" ++ toString f ++ "'")
    | [f, s, l] => print f s l
    | _ => usage "seq" ("extra operand '" ++ (args[3]?).getD "" ++ "'")

def forever : Duration := .ofSeconds (Nat.pow 2 64)

def readTime? (s : String) : Option Duration := do
  if s = "infinity" || s = "inf" then return forever
  let (number, unit) := match s.toList.reverse with
    | 's' :: r => (r.reverse, 1)
    | 'm' :: r => (r.reverse, 60)
    | 'h' :: r => (r.reverse, 3600)
    | 'd' :: r => (r.reverse, 86400)
    | _ => (s.toList, 1)
  let (whole, fraction) := (Text.cut '.' number).getD (number, [])
  if whole.isEmpty && fraction.isEmpty then none
  let whole ← if whole.isEmpty then some 0 else Numeral.read? whole
  let nanos ← if fraction.isEmpty then some 0
    else Numeral.read? ((fraction ++ List.replicate 9 '0').take 9)
  return ⟨(whole * Duration.perSecond + nanos) * unit⟩

def sleep : Program := fun args => do
  match args.find? fun s => (readTime? s).isNone with
  | some s => usage "sleep" ("invalid time interval '" ++ s ++ "'")
  | none =>
    match args.filterMap readTime? with
    | [] => usage "sleep" "missing operand"
    | d :: r =>
      Step.spend (r.foldl (fun a b => ⟨a.nanos + b.nanos⟩) d)
      return 0

def exprValue (a sign b : String) : Except String String := do
  let compare (onNumbers : Int → Int → Bool) (onTexts : String → String → Bool) : String :=
    let holds := match a.toInt?, b.toInt? with
      | some m, some n => onNumbers m n
      | _, _ => onTexts a b
    if holds then "1" else "0"
  let arithmetic (s : Sign) : Except String String :=
    match a.toInt?, b.toInt? with
    | some m, some n => match s.apply m n with
      | .ok k => .ok (toString k)
      | .error _ => .error "division by zero"
    | _, _ => .error "non-integer argument"
  match sign with
  | "+" => arithmetic .add
  | "-" => arithmetic .sub
  | "*" => arithmetic .mul
  | "/" => arithmetic .div
  | "%" => arithmetic .rem
  | "=" | "==" => .ok (compare (· == ·) (· == ·))
  | "!=" => .ok (compare (· != ·) (· != ·))
  | "<" => .ok (compare (· < ·) (· < ·))
  | "<=" => .ok (compare (· ≤ ·) (· ≤ ·))
  | ">" => .ok (compare (· > ·) (· > ·))
  | ">=" => .ok (compare (· ≥ ·) (· ≥ ·))
  | _ => .error ("syntax error: unexpected argument '" ++ sign ++ "'")

def expr : Program := fun args => do
  let outcome : Except String String := match args with
    | [] => .error "missing operand"
    | first :: rest =>
      let rec go (value : String) : List String → Except String String
        | [] => .ok value
        | [s] => .error ("syntax error: missing argument after '" ++ s ++ "'")
        | s :: b :: r => do go (← exprValue value s b) r
      go first rest
  match outcome with
  | .error "missing operand" => return (← usage "expr" "missing operand") + 1
  | .error e =>
    complain "expr" e
    return 2
  | .ok v =>
    Step.printText (v ++ "\n")
    return if v.isEmpty || v = "0" then 1 else 0

end Program

structure Signal where
  number : Nat
  name : String
  ending : String

def signals : List Signal := [
  ⟨1, "HUP", "Hangup"⟩, ⟨2, "INT", ""⟩, ⟨3, "QUIT", "Quit"⟩, ⟨6, "ABRT", "Aborted"⟩,
  ⟨9, "KILL", "Killed"⟩, ⟨10, "USR1", "User defined signal 1"⟩,
  ⟨11, "SEGV", "Segmentation fault"⟩, ⟨12, "USR2", "User defined signal 2"⟩, ⟨13, "PIPE", ""⟩,
  ⟨14, "ALRM", "Alarm clock"⟩, ⟨15, "TERM", "Terminated"⟩]

def signalNumber? (s : String) : Option Nat :=
  match Numeral.read? s.toList with
  | some n => some n
  | none =>
    let name := s.toUpper
    let name := if name.startsWith "SIG" then (name.drop 3).toString else name
    (signals.find? fun x => x.name = name).map (·.number)

namespace Program

def kill : Program := fun args => do
  let (signal, targets) := match args with
    | "-s" :: s :: r => (signalNumber? s, r)
    | s :: r => if isOption s then (signalNumber? (s.drop 1).toString, r) else (some 15, args)
    | [] => (some 15, [])
  match signal, targets with
  | none, _ =>
    Step.complainHere ("kill: Illegal option -" ++ (((args.headD "").drop 1).take 1).toString)
    return 2
  | some _, [] =>
    Step.complainHere "kill: Usage: kill [-s sigspec | -signum | -sigspec] [pid | job]... or"
    Step.complain "kill -l [exitstatus]"
    return 2
  | some n, targets =>
    let mut status := 0
    for t in targets do
      let m : Machine ← get
      if t = toString m.process || t = "0" then
        if n ≠ 0 then throw (.signal n)
      else if (m.job?.map toString) = some t then
        if n ≠ 0 then set (m.endJob (128 + n))
      else if (Numeral.read? (t.toList.dropWhile (· = '-'))).isNone then
        Step.complainHere ("kill: Illegal number: " ++ t)
        return 2
      else
        Step.complainHere "kill: No such process\n"
        status := 1
    return status

end Program

def programs : List (String × Program) := [
  ("cat", Program.cat), ("echo", Program.echo false), ("printf", Program.printf false),
  ("head", Program.head), ("tail", Program.tail), ("wc", Program.wc), ("seq", Program.seq),
  ("tr", Program.tr), ("sort", Program.sort), ("cut", Program.cut), ("grep", Program.grep),
  ("tee", Program.tee), ("expr", Program.expr), ("sleep", Program.sleep),
  ("touch", Program.touch), ("mkdir", Program.mkdir), ("rmdir", Program.rmdir),
  ("rm", Program.rm), ("cp", Program.cp), ("mv", Program.mv), ("chmod", Program.chmod),
  ("ls", Program.ls), ("pwd", Program.pwd), ("basename", Program.basename),
  ("dirname", Program.dirname), ("test", Question.test), ("[", Question.bracket),
  ("kill", Program.kill), ("true", fun _ => return 0), ("false", fun _ => return 1)]

end WebTestbed.Shell
