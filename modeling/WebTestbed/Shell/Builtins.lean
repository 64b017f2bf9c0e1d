import WebTestbed.Shell.Fields
import WebTestbed.Shell.Launch
import WebTestbed.Shell.Reader

/-! What the shell does itself: parameters, redirections, processes, and commands that change the
shell. -/
namespace WebTestbed.Shell

def builtins : List (String × Program) := [
  ("echo", Program.echo true), ("printf", Program.printf true), ("pwd", Program.pwd),
  ("test", Question.test), ("[", Question.bracket), ("kill", Program.kill),
  (":", fun _ => return 0), ("true", fun _ => return 0), ("false", fun _ => return 1),
  ("umask", fun _ => return 0), ("ulimit", fun _ => return 0), ("hash", fun _ => return 0)]

def Machine.param? (m : Machine) (name : String) : Option String :=
  match name with
  | "?" => some (toString m.status)
  | "#" => some (toString m.params.length)
  | "$" => some (toString m.process)
  | "!" => m.job?.map toString
  | "-" => some ""
  | "0" => some m.name
  | "@" => some (Text.joinWith " " m.params)
  | "*" => some (Text.joinWith (String.ofList (m.separators.take 1)) m.params)
  | "PWD" => (m.value? name).or (some ("/" ++ Text.joinWith "/" m.files.workDir))
  | "PPID" => some (toString (m.process - 1))
  | _ =>
    match Numeral.read? name.toList with
    | some n => m.params[n - 1]?
    | none => m.value? name

namespace Step

def redirect (descriptor : Nat) (sink : Sink) : Step Unit :=
  modify fun m =>
    match descriptor with
    | 1 => { m with output := sink }
    | 2 => { m with errors := sink }
    | n => { m with others := (n, sink) :: m.others.filter (·.1 ≠ n) }

/-- Makes a descriptor lead where another does, of which the text is given; whether it can. -/
def redirectSame (descriptor : Nat) (other : String) : Step Bool := do
  let m ← get
  let sink? := match Numeral.read? other.toList with
    | some 0 => some m.output
    | some 1 => some m.output
    | some 2 => some m.errors
    | some n => m.others.lookup n
    | none => if other = "-" then some .nowhere else none
  match sink? with
  | some sink =>
    if descriptor ≠ 0 then redirect descriptor sink
    return true
  | none =>
    complainHere (other ++ ": Bad file descriptor")
    return false

def openFile (descriptor : Nat) (path : String) (fresh : Bool) : Step Bool := do
  let m ← get
  match path with
  | "/dev/null" =>
    redirect descriptor .nowhere
    return true
  | "/dev/stdout" =>
    redirect descriptor m.output
    return true
  | "/dev/stderr" =>
    redirect descriptor m.errors
    return true
  | _ =>
    match if fresh then m.files.write ⟨path⟩ [] else m.files.append ⟨path⟩ [] with
    | .ok t =>
      set { m with files := t }
      redirect descriptor (.file ⟨path⟩)
      return true
    | .error e =>
      let reason := if e = .notFound then "Directory nonexistent" else e.reason
      complainHere ("cannot create " ++ path ++ ": " ++ reason)
      return false

def openInput (path : String) : Step Bool := do
  let m ← get
  match if path = "/dev/null" then .ok [] else m.files.read ⟨path⟩ with
  | .ok content =>
    set { m with input := content }
    return true
  | .error e =>
    let reason := if e = .notFound then "No such file" else e.reason
    complainHere ("cannot open " ++ path ++ ": " ++ reason)
    return false

/-- Gives a variable a value, unless it keeps the one it has. -/
def setVariable (name value : String) : Step Unit := do
  if (← get).constants.contains name then failHere (name ++ ": is read only")
  modify (·.assign name value)

/-- A step with variables, parameters and place of its own. Its exit is its status. -/
def apart (x : Step Unit) : Step Unit := do
  let before ← get
  let restore (m : Machine) : Machine :=
    { m with bindings := before.bindings, functions := before.functions, params := before.params
             name := before.name, files := { m.files with workDir := before.files.workDir }
             output := before.output, errors := before.errors, others := before.others
             options := before.options, traps := before.traps, loops := before.loops
             locals := before.locals, constants := before.constants, exported := before.exported
             tested := before.tested, lastJob := before.lastJob }
  set { before with traps := before.traps.filter (·.2.isEmpty), loops := 0 }
  restoring (tryCatch x fun
    | .exit n | .returned n => setStatus n
    | .leaveLoop _ | .nextRound _ => pure ()
    | stop => throw stop) restore

def inProcess (name : String) (options : Options) (params : List String) (x : Step Unit) :
    Step Unit := do
  let before ← get
  let restore (m : Machine) : Machine :=
    { m with process := before.process, line := before.line }
  let seen := before.bindings.filter fun b => before.exported.contains b.1
  restoring (apart (do
      modify fun m => { m with process := m.process + 2, name := name, params := params
                               functions := [], bindings := seen, options := options
                               locals := none, constants := [], tested := false, lastJob := none
                               others := [], status := 0 }
      x)) restore

/-- Gives a process that a signal ends a status, and tells of it. -/
def survived (x : Step Unit) : Step Unit :=
  tryCatch x fun
    | .signal n => do
      let ending := ((signals.find? fun s => s.number = n).map (·.ending)).getD ""
      if !ending.isEmpty then complain ending
      setStatus (128 + n)
    | stop => throw stop

def checkFailure : Step Unit := do
  let m ← get
  if m.options.stopAtFailure && !m.tested && m.status ≠ 0 then throw (.exit m.status)

def inLoop (x : Step Unit) : Step Unit := do
  modify fun m => { m with loops := m.loops + 1 }
  restoring x fun m => { m with loops := m.loops - 1 }

def numberArgument (command : String) : List String → Step (Option Nat)
  | [] => return none
  | s :: _ =>
    match Numeral.read? s.toList with
    | some n => return some n
    | none => failHere (command ++ ": Illegal number: " ++ s)

/-- Leaves as many loops as asked for, with what makes that of their number. -/
def leaveLoops (command : String) (stop : Nat → Stop) (args : List String) : Step Unit := do
  let n := (← numberArgument command args).getD 1
  if n = 0 then failHere (command ++ ": Illegal number: 0")
  let m ← get
  if m.loops = 0 then setStatus 0 else throw (stop (min n m.loops))

end Step

def Options.change (on : Bool) (o : Options) (letters : String) : Options :=
  letters.toList.foldl (fun o c =>
    match c with
    | 'e' => { o with stopAtFailure := on }
    | 'u' => { o with needValues := on }
    | 'x' => { o with trace := on }
    | _ => o) o

def optionLetter (name : String) : String :=
  match name with
  | "errexit" => "e"
  | "nounset" => "u"
  | "xtrace" => "x"
  | _ => ""

def Options.readWords : Options → List String → Options × Option (List String)
  | o, [] => (o, none)
  | o, "--" :: r => (o, some r)
  | o, "-o" :: name :: r => (o.change true (optionLetter name)).readWords r
  | o, "+o" :: name :: r => (o.change false (optionLetter name)).readWords r
  | o, s :: r =>
    if s.startsWith "-" && s ≠ "-" then (o.change true s).readWords r
    else if s.startsWith "+" then (o.change false s).readWords r
    else (o, some (s :: r))

namespace Step

def trap (args : List String) : Step Unit := do
  let signalName (n : Nat) : String :=
    if n = 0 then "EXIT" else ((signals.find? fun s => s.number = n).map (·.name)).getD (toString n)
  let place (action : Option String) (names : List String) : Step Unit := do
    setStatus 0
    for name in names do
      match if name = "EXIT" then some 0 else signalNumber? name with
      | none =>
        complain ("trap: " ++ name ++ ": bad trap")
        setStatus 1
      | some n =>
        modify fun m => { m with
          traps := (action.map fun a => (n, a)).toList ++ m.traps.filter (·.1 ≠ n) }
  match args with
  | [] =>
    let traps := (← get).traps.mergeSort fun a b => a.1 ≤ b.1
    for (n, action) in traps do
      printText ("trap -- " ++ singleQuoted action ++ " " ++ signalName n ++ "\n")
    setStatus 0
  | [name] => place none [name]
  | action :: names => place (if action = "-" then none else some action) names

def readLine (args : List String) : Step Unit := do
  let names := args.filter (!Program.isOption ·)
  let raw := Program.hasOption args 'r'
  if let some name := names.find? (!isName ·.toList) then
    failHere ("read: " ++ name ++ ": bad variable name")
  if names.isEmpty then
    complainHere "read: arg count"
    setStatus 2
  else
    let m ← get
    let line := m.input.takeWhile (· ≠ 10)
    let rest := m.input.dropWhile (· ≠ 10)
    let text := Utf8.lossy line
    let text := if raw then text else plainText text
    set { m with input := rest.tail }
    for (name, value) in names.zip (lineFields m.separators names.length text) do
      setVariable name value
    setStatus (if rest.isEmpty then 1 else 0)

/-- Gives variables values; `more` is done to each of their names. -/
def declare (command : String) (args : List String) (more : String → Machine → Machine) :
    Step Unit := do
  for a in args do
    let (name, value) := (Text.cut '=' a.toList).getD (a.toList, [])
    if !isName name then failHere (command ++ ": " ++ String.ofList name ++ ": bad variable name")
    if a.contains '=' then setVariable (String.ofList name) (String.ofList value)
    modify (more (String.ofList name))
  setStatus 0

def declareLocal (args : List String) : Step Unit := do
  let m ← get
  match m.locals with
  | none => failHere "local: not in a function"
  | some saved =>
    let names := args.map fun a => ((Text.cutString '=' a).map (·.1)).getD a
    set { m with locals := some ((names.map fun n => (n, m.value? n)) ++ saved) }
    declare "local" args fun _ m => m

def changeDirectory (args : List String) : Step Unit := do
  let m ← get
  let path := args.headD "/"
  match m.files.locate ⟨path⟩ with
  | .ok l =>
    if ((m.files.node? l).map (·.isDirectory)).getD false then
      set { m with files := { m.files with workDir := l }, status := 0 }
      return
  | .error _ => pure ()
  complainHere ("cd: can't cd to " ++ path)
  setStatus 2

def wait (args : List String) : Step Unit := do
  let m ← get
  spend ⟨m.busyUntil.nanos - m.clock.nanos⟩
  match args with
  | [] => setStatus 0
  | s :: _ => setStatus ((m.lastJob.bind fun j =>
      if toString j.1 = s then some j.2 else none).getD 127)

def describe (inWords : Bool) (name : String) : Step Bool := do
  let m ← get
  let print (inWord inSentence : String) : Step Bool := do
    printText ((if inWords then name ++ " is " ++ inSentence else inWord) ++ "\n")
    return true
  let shellCommands := ["break", "cd", "command", "continue", "eval", "exec", "exit", "export",
    "local", "read", "readonly", "return", "set", "shift", "trap", "type", "unset", "wait", "."]
  if keywords.contains name then print name "a shell keyword"
  else if (m.functions.lookup name).isSome then print name "a shell function"
  else if (builtins.lookup name).isSome || shellCommands.contains name then
    print name "a shell builtin"
  else match programPath? name with
    | some path => print path path
    | none =>
      if inWords then printText (name ++ ": not found\n")
      return false

def describeAll (inWords : Bool) (names : List String) : Step Unit := do
  let known ← names.mapM (describe inWords)
  setStatus (if known.all id then 0 else 127)

end Step

end WebTestbed.Shell
