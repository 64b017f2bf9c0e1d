import WebTestbed.Shell.Builtins

/-! Running scripts. -/
namespace WebTestbed.Shell

def startTime : Duration := .ofMillis 1

def commandTime : Duration := ⟨10000⟩

def choiceParts (s : String) : Word :=
  match wordParts (fun _ => false) (s.length + 1) [] s.toList with
  | .ok (w, _) => w
  | .error _ => [⟨.text s, false⟩]

def missingMessage (emptyToo : Bool) (given : String) : String :=
  if given.isEmpty then "parameter not set" ++ (if emptyToo then " or null" else "") else given

mutual

def paramText : Nat → String → Step String
  | 0, _ => throw .endless
  | _, name => do
    let m ← get
    match m.param? name with
    | some v => return v
    | none =>
      if m.options.needValues then Step.failHere (name ++ ": parameter not set") else return ""

def pieceText : Nat → Piece → Step String
  | 0, _ => throw .endless
  | fuel + 1, p => do
    match p with
    | .text s => return s
    | .param name => paramText fuel name
    | .size name => return toString (← paramText fuel name).length
    | .output script =>
      let ((), bytes) ← Step.collect (Step.apart (runText fuel "" script))
      return withoutNewlines bytes
    | .formula text =>
      let text ← quotedText fuel text
      let m ← get
      match (Formula.read text).bind (Formula.eval m.bindings) with
      | .ok (n, bindings) =>
        set { m with bindings := bindings }
        return toString n
      | .error e => Step.failHere (e.message text)
    | .unknown => Step.failHere "Bad substitution"
    | .choice name c emptyToo word =>
      match ← choiceWord fuel name c emptyToo word with
      | some w => wordText fuel w
      | none =>
        let value ← paramText fuel name
        let pattern ← wordPattern fuel (choiceParts word)
        return String.ofList (c.cut pattern value.toList)

/-- The word that a parameter with a condition stands for, if it stands for a word. -/
def choiceWord : Nat → String → Choice → Bool → String → Step (Option Word)
  | 0, _, _, _, _ => throw .endless
  | fuel + 1, name, c, emptyToo, word => do
    let value := (← get).param? name
    let present := value.any fun v => !(emptyToo && v.isEmpty)
    let own : Word := [⟨.param name, false⟩]
    match c with
    | .otherwise => return some (if present then own else choiceParts word)
    | .ifSet => return some (if present then choiceParts word else [])
    | .assign =>
      if !present then Step.setVariable name (← wordText fuel (choiceParts word))
      return some own
    | .required =>
      if present then return some own
      else
        let given ← wordText fuel (choiceParts word)
        Step.failHere (name ++ ": " ++ missingMessage emptyToo given)
    | _ => return none

def quotedText : Nat → String → Step String
  | 0, _ => throw .endless
  | fuel + 1, s =>
    match quotedParts false (s.length + 1) [] s.toList with
    | .ok (w, _) => wordText fuel w
    | .error _ => return s

def wordText : Nat → Word → Step String
  | 0, _ => throw .endless
  | fuel + 1, w => do
    let mut texts := []
    for part in w do
      texts := (← pieceText fuel part.piece) :: texts
    return String.join texts.reverse

/-- What a word stands for as a pattern, in which what is quoted stands for itself. -/
def wordPattern : Nat → Word → Step (List Char)
  | 0, _ => throw .endless
  | fuel + 1, w => do
    let mut pattern := []
    for part in w do
      let text := (← pieceText fuel part.piece).toList
      pattern := pattern ++ if part.quoted then literalPattern text else text
    return pattern

def addParts : Nat → Bool → Fields → Word → Step Fields
  | 0, _, _, _ => throw .endless
  | _, _, f, [] => return f
  | fuel + 1, quoted, f, part :: rest => do
    let quotedHere := quoted || part.quoted
    let split (s : String) : Step Fields := do
      if quotedHere then return f.add true s else return f.addSplit (← get).separators s
    let f ← match part.piece with
      | .text s => pure (f.add quotedHere s)
      | .param "@" => do
        let params := (← get).params
        if quotedHere then pure (f.addAll params) else split (Text.joinWith " " params)
      | .choice name c emptyToo word => do
        match ← choiceWord fuel name c emptyToo word with
        | some w => addParts fuel quotedHere f w
        | none => split (← pieceText fuel part.piece)
      | piece => do split (← pieceText fuel piece)
    addParts fuel quoted f rest

def wordFields : Nat → List Word → Step (List String)
  | 0, _ => throw .endless
  | fuel + 1, words => do
    let mut all := []
    for w in words do
      let f ← addParts fuel false {} w
      let files := (← get).files
      all := (f.toList.flatMap (·.expand files)).reverse ++ all
    return all.reverse

/-- Applies redirections; whether all can be. -/
def applyRedirects : Nat → List Redirect → Step Bool
  | 0, _ => throw .endless
  | _, [] => return true
  | fuel + 1, r :: rest => do
    let done ← match r.source with
      | .write w => Step.openFile r.descriptor (← wordText fuel w) true
      | .append w => Step.openFile r.descriptor (← wordText fuel w) false
      | .read w => Step.openInput (← wordText fuel w)
      | .content w =>
        let body ← wordText fuel w
        modify ({ · with input := Utf8.encode body })
        pure true
      | .same w => Step.redirectSame r.descriptor (← wordText fuel w)
    if done then applyRedirects fuel rest else return false

def withRedirects : Nat → List Redirect → Step Unit → Step Unit
  | 0, _, _ => throw .endless
  | fuel + 1, redirects, x => do
    if redirects.isEmpty then x
    else
      let before ← get
      let ownInput := redirects.any fun r => r.source matches .read _ | .content _
      Step.restoring (do
          if ← applyRedirects fuel redirects then x else Step.setStatus 2)
        fun m => { m with output := before.output, errors := before.errors, others := before.others
                          input := if ownInput then before.input else m.input }

def runLoop : Nat → Bool → Command → Command → Step Unit
  | 0, _, _, _ => throw .endless
  | fuel + 1, untilDone, test, body => do
    Step.spend commandTime
    let before := (← get).status
    Step.asTest (runCommand fuel test)
    if ((← get).status = 0) != untilDone then
      if ← runRound fuel body then runLoop fuel untilDone test body
    else Step.setStatus before

/-- Runs the body of a loop; whether the loop goes on. -/
def runRound : Nat → Command → Step Bool
  | 0, _ => throw .endless
  | fuel + 1, body =>
    tryCatch (do
        runCommand fuel body
        return true)
      fun
      | .leaveLoop n => do
        Step.setStatus 0
        if 1 < n then throw (.leaveLoop (n - 1)) else return false
      | .nextRound n => do
        Step.setStatus 0
        if 1 < n then throw (.nextRound (n - 1)) else return true
      | stop => throw stop

def runEach : Nat → String → List String → Command → Step Unit
  | 0, _, _, _ => throw .endless
  | _, _, [], _ => return
  | fuel + 1, name, v :: rest, body => do
    Step.spend commandTime
    Step.setVariable name v
    if ← runRound fuel body then runEach fuel name rest body

def runSelect : Nat → String → List (List Word × Command) → Step Unit
  | 0, _, _ => throw .endless
  | _, _, [] => Step.setStatus 0
  | fuel + 1, s, (patterns, c) :: rest => do
    let mut found := false
    for p in patterns do
      found := found || fits (← wordPattern fuel p) s.toList
    if found then
      Step.setStatus 0
      runCommand fuel c
    else runSelect fuel s rest

def runMain : Nat → String → Step Unit
  | 0, _ => throw .endless
  | fuel + 1, text => do
    tryCatch (runText fuel "" text) fun
      | .exit n | .returned n => Step.setStatus n
      | .leaveLoop _ | .nextRound _ => pure ()
      | stop => throw stop
    let m ← get
    if let some action := m.traps.lookup 0 then
      set { m with traps := [] }
      runText fuel "" action
      Step.setStatus m.status

def runLaunch : Nat → Launch → Step Unit
  | 0, _ => throw .endless
  | fuel + 1, l => do
    Step.spend startTime
    match l with
    | .program run args => Step.setStatus (← run args)
    | .script name content options args =>
      let o := (({} : Options).readWords options).1
      Step.inProcess name o args (runMain fuel (Utf8.lossyString content))
    | .environment args => runEnvironment fuel args
    | .shell shell args =>
      let flags := args.takeWhile fun a => Program.isOption a && !a.endsWith "c"
      let o := (({} : Options).readWords flags).1
      let fromInput (params : List String) : Step Unit := do
        let text ← Step.takeInput
        Step.inProcess shell o params (runMain fuel (Utf8.lossyString text))
      match args.drop flags.length with
      | [] => fromInput []
      | first :: rest =>
        if Program.isOption first then
          let o := o.change true first
          match rest with
          | [] =>
            Step.complain (shell ++ ": 0: -c requires an argument")
            Step.setStatus 2
          | [text] => Step.inProcess shell o [] (runMain fuel text)
          | text :: name :: params => Step.inProcess name o params (runMain fuel text)
        else if Program.hasOption flags 's' then fromInput (first :: rest)
        else match (← get).files.read ⟨first⟩ with
          | .ok content => Step.inProcess first o rest (runMain fuel (Utf8.lossyString content))
          | .error _ =>
            Step.complain (shell ++ ": 0: cannot open " ++ first ++ ": No such file")
            Step.setStatus 2

def runEnvironment : Nat → List String → Step Unit
  | 0, _ => throw .endless
  | fuel + 1, args => do
    let isSetting (s : String) : Bool := s.contains '=' && !s.startsWith "="
    let before ← get
    for s in args.takeWhile isSetting do
      if let some (name, v) := Text.cutString '=' s then
        modify fun m => { m.assign name v with exported := name :: m.exported }
    let words := args.dropWhile isSetting
    if words.isEmpty then
      let m ← get
      for (name, v) in m.bindings do
        if m.exported.contains name then Step.printText (name ++ "=" ++ v ++ "\n")
      set { m with bindings := before.bindings, exported := before.exported, status := 0 }
      return
    match resolve before.files words with
    | .ok l =>
      Step.restoring (runLaunch fuel l) fun m =>
        { m with bindings := before.bindings, exported := before.exported }
    | .error e =>
      Program.complain "env" ("'" ++ words.headD "" ++ "': " ++ e.reason)
      Step.setStatus (if e = .notFound then 127 else 126)

/-- Runs a program by its name, in the place of the shell or as a process beside it. -/
def runProgram : Nat → Bool → List String → Step Unit
  | 0, _, _ => throw .endless
  | fuel + 1, inPlace, args => do
    let m ← get
    let name := args.headD ""
    let launched (l : Launch) : Step Unit :=
      if inPlace then runLaunch fuel l else Step.survived (runLaunch fuel l)
    let label := if inPlace then "exec: " else ""
    match resolve m.files args with
    | .ok l => launched l
    | .error .notAProgram =>
      launched (.script name ((m.files.read ⟨name⟩).toOption.getD []) [] args.tail)
    | .error .notFound =>
      let reason := if name.isEmpty then "Permission denied" else "not found"
      Step.complainHere (label ++ name ++ ": " ++ reason)
      Step.setStatus 127
    | .error e =>
      Step.complainHere (label ++ name ++ ": " ++ e.reason)
      Step.setStatus 126

def runFunction : Nat → Command → List String → Step Unit
  | 0, _, _ => throw .endless
  | fuel + 1, body, args => do
    let before ← get
    set { before with params := args, locals := some [], loops := 0 }
    Step.restoring (tryCatch (runCommand fuel body) fun
        | .returned n => Step.setStatus n
        | stop => throw stop)
      fun m =>
        let m := (m.locals.getD []).foldl (fun m v => m.reset v.1 v.2) m
        { m with params := before.params, locals := before.locals, loops := before.loops }

def runFile : Nat → List String → Step Unit
  | 0, _ => throw .endless
  | _, [] => Step.setStatus 0
  | fuel + 1, path :: _ => do
    if !path.contains '/' then Step.failHere (".: " ++ path ++ ": not found")
    match (← get).files.read ⟨path⟩ with
    | .error _ => Step.failHere (".: cannot open " ++ path ++ ": No such file")
    | .ok content =>
      tryCatch (runText fuel "" (Utf8.lossyString content)) fun
        | .returned n => Step.setStatus n
        | stop => throw stop

/-- Runs a command of the shell, if it is one that changes the shell; whether it is. -/
def runOwn : Nat → List String → Step Bool
  | 0, _ => throw .endless
  | _, [] => return false
  | fuel + 1, name :: args => do
    let m ← get
    let ending (stop : Nat → Stop) : Step Unit := do
      throw (stop ((← Step.numberArgument name args).getD m.status % 256))
    match name with
    | "exit" => ending .exit
    | "return" => ending .returned
    | "break" => Step.leaveLoops name .leaveLoop args
    | "continue" => Step.leaveLoops name .nextRound args
    | "shift" =>
      let n := (← Step.numberArgument name args).getD 1
      if n ≤ m.params.length then set { m with params := m.params.drop n, status := 0 }
      else Step.failHere "shift: can't shift that many"
    | "set" =>
      let (o, params) := m.options.readWords args
      set { m with options := o, params := params.getD m.params, status := 0 }
    | "wait" => Step.wait args
    | "trap" => Step.trap args
    | "read" => Step.readLine args
    | "cd" => Step.changeDirectory args
    | "local" => Step.declareLocal args
    | "export" =>
      Step.declare name args fun n m => { m with exported := n :: m.exported }
    | "readonly" =>
      Step.declare name args fun n m => { m with constants := n :: m.constants }
    | "unset" =>
      Step.declare name (args.filter (!Program.isOption ·)) fun n m =>
        { m.reset n none with functions := m.functions.filter (·.1 ≠ n) }
    | "eval" => runText fuel "eval: " (Text.joinWith " " args)
    | "." => runFile fuel args
    | "type" => Step.describeAll true args
    | "exec" =>
      if !args.isEmpty then
        runProgram fuel true args
        throw (.exit (← get).status)
    | "command" =>
      if args.head? = some "-v" then Step.describeAll false ((args.drop 1).take 1)
      else runCall fuel false args
    | _ => return false
    return true

def runCall : Nat → Bool → List String → Step Unit
  | 0, _, _ => throw .endless
  | _, _, [] => return
  | fuel + 1, functionsToo, name :: args => do
    let m ← get
    match if functionsToo then m.functions.lookup name else none with
    | some body => runFunction fuel body args
    | none =>
      if ← runOwn fuel (name :: args) then return
      match builtins.lookup name with
      | some run =>
        Step.spend commandTime
        tryCatch (do Step.setStatus (← run args)) fun
          | .signal n =>
            match if n = 9 then none else m.traps.lookup n with
            | some action => do
              runText fuel "" action
              Step.setStatus 0
            | none => throw (.signal n)
          | stop => throw stop
      | none => runProgram fuel false (name :: args)

def runSimple : Nat → List (String × Word) → List String → List Redirect → Step Unit
  | 0, _, _, _ => throw .endless
  | fuel + 1, assignments, args, redirects => do
    let before ← get
    let mut shown := []
    for (name, w) in assignments do
      let v ← wordText fuel w
      Step.setVariable name v
      shown := (name ++ "=" ++ v) :: shown
    if before.options.trace then
      let words := shown.reverse ++ args
      if !words.isEmpty then Step.complain ("+ " ++ Text.joinWith " " words)
    match args with
    | [] =>
      let fromOutput := assignments.any fun a => a.2.any fun p => p.piece matches .output _
      if !fromOutput then Step.setStatus 0
      withRedirects fuel redirects (return)
    | ["exec"] => if !(← applyRedirects fuel redirects) then throw (.exit 2)
    | name :: _ =>
      let names := assignments.map (·.1)
      modify fun m => { m with exported := names ++ m.exported }
      withRedirects fuel redirects (runCall fuel true args)
      let kept := [":", ".", "eval", "exec", "exit", "export", "readonly", "return", "set", "shift",
        "trap", "unset"].contains name
      if !kept then
        modify fun m => names.foldl (fun m n => m.reset n (before.value? n))
          { m with exported := before.exported }

def runCommand : Nat → Command → Step Unit
  | 0, _ => throw .endless
  | fuel + 1, c => do
    match c with
    | .nothing => return
    | .seq c d =>
      runCommand fuel c
      runCommand fuel d
    | .both c d =>
      Step.asTest (runCommand fuel c)
      if (← get).status = 0 then runCommand fuel d
    | .either c d =>
      Step.asTest (runCommand fuel c)
      if (← get).status ≠ 0 then runCommand fuel d
    | .not c =>
      Step.asTest (runCommand fuel c)
      modify fun m => { m with status := if m.status = 0 then 1 else 0 }
    | .pipe c d =>
      let ((), bytes) ← Step.collect (Step.apart (runCommand fuel c))
      let before := (← get).input
      modify ({ · with input := bytes })
      Step.restoring (Step.apart (runCommand fuel d)) ({ · with input := before })
      Step.checkFailure
    | .background c =>
      let before ← get
      set { before with deadline := none, input := [] }
      tryCatch (Step.apart (Step.survived (runCommand fuel c))) fun
        | .endless => modify ({ · with clock := ⟨Action.clockLimit⟩ })
        | stop => throw stop
      modify fun m => { m with deadline := before.deadline, clock := before.clock
                               input := before.input, status := 0
                               busyUntil := before.busyUntil.max m.clock
                               lastJob := some (before.job?.getD m.process + 1, m.status) }
    | .branch test c d =>
      Step.asTest (runCommand fuel test)
      let success := (← get).status = 0
      Step.setStatus 0
      runCommand fuel (if success then c else d)
    | .loop untilDone test body =>
      Step.setStatus 0
      Step.inLoop (runLoop fuel untilDone test body)
    | .forEach name words body =>
      let values ← match words with
        | some words => wordFields fuel words
        | none => pure (← get).params
      Step.setStatus 0
      Step.inLoop (runEach fuel name values body)
    | .select w cases => runSelect fuel (← wordText fuel w) cases
    | .subshell c =>
      Step.apart (runCommand fuel c)
      Step.checkFailure
    | .redirected c redirects => withRedirects fuel redirects (runCommand fuel c)
    | .define name body =>
      modify fun m => { m with functions := (name, body) :: m.functions, status := 0 }
    | .call line assignments words redirects =>
      modify ({ · with line := line })
      runSimple fuel assignments (← wordFields fuel words) redirects
      Step.checkFailure

/-- Reads and runs a script. What cannot be read ends it, once what is before that has run. -/
def runText : Nat → String → String → Step Unit
  | 0, _, _ => throw .endless
  | fuel + 1, label, text => do
    let script := readScript text
    runAll fuel script.commands
    if let some (line, e) := script.error then
      modify ({ · with line := line })
      Step.failHere (label ++ "Syntax error: " ++ e.message)

def runAll : Nat → List Command → Step Unit
  | 0, _ => throw .endless
  | _, [] => return
  | fuel + 1, c :: rest => do
    runCommand fuel c
    runAll fuel rest

end

end WebTestbed.Shell
