import WebTestbed.CommandLine.Help
import WebTestbed.Control.Basic
import WebTestbed.Host.Install
import WebTestbed.Probe.Curl
import WebTestbed.ServerRoot.Basic
import WebTestbed.Settings.Load

/-! The program: from a command line to what it prints, what it leaves in the files, and its exit
code. -/
namespace WebTestbed.Program

inductive Failure where
  | noSettings (e : Settings.NoFile)
  | settings (e : Settings.LoadError) (file : String)
  | setup (e : SetupError)
  | request (e : ProbeError)
  | assignment (e : Extras.InvalidAssignment)
  | install (e : InstallError)
  deriving DecidableEq, Repr

def Failure.message : Failure → String
  | noSettings e => e.message
  | settings e file => "error: parsing config. " ++ e.message file
  | setup e => e.message
  | request e => e.message
  | assignment e => e.message
  | install e => e.message

structure Report where
  code : Int := 0
  output : Bytes := []
  errors : Bytes := []
  deriving DecidableEq, Repr

structure ModuleChoice where
  tls : Option String := none
  mpm : Option String := none
  deriving DecidableEq, Repr

abbrev TaskStep (σ : Type) := ExceptT Failure (Control.Step σ)

def attempt (f : ε → Failure) (a : Action σ (Except ε α)) : TaskStep σ α :=
  ExceptT.mk (return (← Control.lift a).mapError f)

def source : String := "httpd_harness::runner"

def tell (level : Level) (source text : String) : TaskStep σ Unit :=
  ExceptT.lift (Control.lift (Action.tell level source text))

def workDir (t : FileTree) : Path :=
  ⟨"/" ++ Text.joinWith "/" t.workDir⟩

/-- A path as seen from the working directory, if it is in there. -/
def relative (t : FileTree) (p : Path) : String :=
  let base := (workDir t).text.toList ++ ['/']
  if base.isPrefixOf p.text.toList then String.ofList (p.text.toList.drop base.length) else p.text

def readEnvironment (given : Option Path) (choice : ModuleChoice) : TaskStep σ Environment := do
  let file ← attempt .noSettings (Action.readFiles fun t => Settings.findFile t (workDir t) given)
  tell .info source ("using config: " ++ Text.quote file.text)
  let settings ← attempt (fun e : Settings.LoadError × String => .settings e.1 e.2)
    (Action.readFiles fun t => (Settings.load t file).mapError (·, relative t file))
  let dir ← ExceptT.lift (Control.lift (Action.readFiles workDir))
  return .ofSettings settings dir choice.tls choice.mpm

/-- What is shown of the result of a request: its responses, or else what curl printed. -/
def showResult (r : Command.Result) : Report where
  code := r.exitCode
  output := match r.response with
    | some c => c.render
    | none => r.output
  errors := Utf8.encode r.stderr

def perform (run : Runner σ) (env : Environment) (task : CommandLine.Task) : TaskStep σ Report := do
  let c : Controller σ := ⟨env, run, Curl.probe env run⟩
  let code (x : Control.Step σ Outcome) : TaskStep σ Report := do
    return { code := (← ExceptT.lift x).code }
  match task with
  | .setup =>
    attempt .setup (ServerRoot.ofEnvironment env).setUp
    return {}
  | .start => code c.start
  | .stop => code c.stop
  | .reload => code c.reload
  | .restart true => code c.hardRestart
  | .restart false =>
    let _ ← ExceptT.lift c.observe
    code c.restart
  | .probe urls insecure timeout options =>
    let o : CurlOptions :=
      { timeout := some (.ofSeconds timeout), options := options, insecure := insecure }
    return showResult (← attempt .request (Curl.request env run o urls).run)
  | .conf presets extras http2 install =>
    let flavour : Flavour := if http2 then .http2 else .plain
    let conf ← attempt .assignment (return ServerConfig.ofPresets env presets extras flavour)
    if install then
      tell .debug "httpd_harness::conf" conf.installNotice
      attempt .install do
        let s ← get
        match conf.install s.files with
        | .ok t =>
          set { s with files := t }
          return .ok ()
        | .error e => return .error e
      tell .info source ("installed " ++ env.testConfFile.text)
      return {}
    else return { output := Utf8.encode conf.document.text }

def follow (run : Runner σ) (choice : ModuleChoice) (a : CommandLine.Arguments) :
    TaskStep σ Report := do
  tell .debug "httpd_harness"
    (CommandLine.programSpec.name ++ " " ++ version ++ ": " ++ a.task.text)
  let env ← readEnvironment a.configFile choice
  let env := match a.task with
    | .conf _ _ true _ => ServerConfig.http2Environment env
    | _ => env
  perform run env a.task

/-- Starts the file for the log, if there is to be one and it can be written. -/
def openLog (t : FileTree) (file : Option Path) : Option Path × FileTree :=
  match file with
  | none => (none, t)
  | some p =>
    let opened : Except FileError FileTree := do
      let t ← match p.parent? with
        | some dir => if dir.text.isEmpty then .ok t else t.makeDirectories dir
        | none => .ok t
      t.write p []
    match opened with
    | .ok t => (some p, t)
    | .error _ => (none, t)

structure Ending where
  exit : Nat
  output : Bytes := []
  errors : Bytes := []
  files : FileTree
  deriving DecidableEq, Repr

/-- The exit code for the code of a task; a negative one counts as failure. -/
def exitFor (code : Int) : Nat :=
  if code < 0 then 1 else (code % 256).toNat

def exitAborted : Nat := 134

def complaint (text : String) : Bytes :=
  Utf8.encode ("Error: " ++ text ++ "\n")

/-- Follows a command line, and writes the log to its file or to standard output. There is no end if
the program waits for ever. -/
def runArguments (run : Runner Unit) (stamp : Duration → String) (choice : ModuleChoice)
    (files : FileTree) (a : CommandLine.Arguments) : Option Ending :=
  let (log, files) := openLog files a.logFile
  let (r, m) := (follow run choice a).run.run.run ⟨{}, { files := files, outside := () }⟩
  let text := Utf8.encode
    (Entry.renderAll stamp (.ofVerbosity a.verbosity) m.session.journal.reverse)
  let t := m.session.files
  let (shown, t) := match log with
    | some p => ([], if t.isFile p then (t.append p text).toOption.getD t else t)
    | none => (text, t)
  match r with
  | .ok (.ok report) => some ⟨exitFor report.code, shown ++ report.output, report.errors, t⟩
  | .ok (.error e) => some ⟨1, shown, complaint e.message, t⟩
  | .error .clockOverflow =>
    some ⟨exitAborted, shown, Utf8.encode (Fault.clockOverflow.message ++ "\n"), t⟩
  | .error .endless => none

def run (r : Runner Unit) (stamp : Duration → String) (choice : ModuleChoice) (files : FileTree)
    (words : List String) : Except CommandLine.UsageError (Option Ending) :=
  match CommandLine.read words with
  | .ok a => .ok (runArguments r stamp choice files a)
  | .error .logLevel =>
    .ok (some { exit := 1, errors := complaint CommandLine.logLevelMessage, files := files })
  | .error (.usage (.helpAsked c)) =>
    .ok (some { exit := 0, output := Utf8.encode (CommandLine.helpText c), files := files })
  | .error (.usage .versionAsked) =>
    .ok (some { exit := 0, output := Utf8.encode CommandLine.versionText, files := files })
  | .error (.usage .nothingGiven) =>
    .ok (some { exit := 2, errors := Utf8.encode (CommandLine.helpText none), files := files })
  | .error (.usage e) => .error e

end WebTestbed.Program
