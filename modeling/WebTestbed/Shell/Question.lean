import WebTestbed.Shell.Program
import WebTestbed.Text.Blank

/-! Questions of scripts about texts, numbers and files. -/
namespace WebTestbed.Shell

inductive QuestionError where
  | notNumeric (s : String)
  | notUnderstood
  deriving DecidableEq, Repr

def systemDirectories : List String :=
  ["/", "/bin", "/dev", "/etc", "/home", "/lib", "/opt", "/proc", "/root", "/run", "/sbin", "/srv",
    "/sys", "/tmp", "/usr", "/usr/bin", "/usr/lib", "/usr/local", "/usr/local/bin", "/usr/sbin",
    "/var", "/var/log", "/var/tmp"]

def systemFiles : List String :=
  ["/etc/group", "/etc/hosts", "/etc/passwd"]

/-- The directories of programs that are found without a path. -/
def programDirectories : List String := ["/bin", "/usr/bin", "/usr/local/bin"]

namespace Question

def one? (t : FileTree) (question s : String) : Option Bool :=
  let isSystemFile := systemFiles.contains s
  let isDirectory := t.isDirectory ⟨s⟩ || systemDirectories.contains s
  let exists_ := t.contains ⟨s⟩ || isDirectory || isSystemFile || s = "/dev/null" || s = "/bin/sh"
  match question with
  | "-n" => some (!s.isEmpty)
  | "-z" => some s.isEmpty
  | "-e" | "-r" | "-w" => some exists_
  | "-f" => some (t.isFile ⟨s⟩ || isSystemFile || s = "/bin/sh")
  | "-d" => some isDirectory
  | "-s" => some ((t.read ⟨s⟩).toOption.any (!·.isEmpty) || isDirectory || isSystemFile)
  | "-x" => some ((t.find ⟨s⟩).toOption.any (·.2.executable) || isDirectory || s = "/bin/sh")
  | "-b" | "-c" | "-p" | "-S" | "-t" | "-L" | "-h" | "-g" | "-u" | "-k" =>
    some (question = "-c" && s = "/dev/null")
  | _ => none

def number (s : String) : Except QuestionError Int :=
  match (String.ofList (Text.trim s.toList)).toInt? with
  | some n => .ok n
  | none => .error (.notNumeric s)

def two? (a question b : String) : Option (Except QuestionError Bool) :=
  let numbers (f : Int → Int → Bool) : Option (Except QuestionError Bool) :=
    some (do return f (← number a) (← number b))
  match question with
  | "=" | "==" => some (.ok (a == b))
  | "!=" => some (.ok (a != b))
  | "<" => some (.ok (a < b))
  | ">" => some (.ok (b < a))
  | "-eq" => numbers (· == ·)
  | "-ne" => numbers (· != ·)
  | "-lt" => numbers (· < ·)
  | "-le" => numbers (· ≤ ·)
  | "-gt" => numbers (· > ·)
  | "-ge" => numbers (· ≥ ·)
  | _ => none

def simple (t : FileTree) : List String → Except QuestionError Bool
  | [] => .ok false
  | [s] => .ok (!s.isEmpty)
  | ["!", s] => .ok s.isEmpty
  | [q, s] => match one? t q s with
    | some b => .ok b
    | none => .error .notUnderstood
  | [a, q, b] => match two? a q b with
    | some r => r
    | none => if a = "!" then (simple t [q, b]).map (!·)
      else if a = "(" && b = ")" then .ok (!q.isEmpty) else .error .notUnderstood
  | "!" :: r => (simple t r).map (!·)
  | _ => .error .notUnderstood

def splitAt (word : String) (l : List String) : List (List String) :=
  l.foldr (fun s parts =>
    if s = word then [] :: parts
    else match parts with
      | p :: ps => (s :: p) :: ps
      | [] => [[s]]) [[]]

def answer (t : FileTree) (args : List String) : Except QuestionError Bool := do
  let direct := simple t args
  match direct with
  | .error .notUnderstood =>
    let answers ← (splitAt "-o" args).mapM fun l => (splitAt "-a" l).mapM (simple t)
    return answers.any fun l => l.all id
  | r => r

def ask (program : String) : Program := fun args => do
  match answer (← get).files args with
  | .ok b => return if b then 0 else 1
  | .error (.notNumeric s) =>
    Step.complainHere (program ++ ": Illegal number: " ++ s)
    return 2
  | .error .notUnderstood =>
    Step.complainHere (program ++ ": " ++ args.headD "" ++ ": unexpected operator")
    return 2

def test : Program := ask "test"

def bracket : Program := fun args => do
  if args.getLast? = some "]" then ask "[" args.dropLast
  else
    Step.complainHere "[: missing ]"
    return 2

end WebTestbed.Shell.Question
