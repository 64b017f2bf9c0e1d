import WebTestbed.CommandLine.Reader
import WebTestbed.Files.Path
import WebTestbed.Host.Preset
import WebTestbed.Text.Blank
import WebTestbed.Text.Quoted

/-! The command line of the program. -/
namespace WebTestbed.CommandLine

def helpArgument : Argument :=
  { name := "help", form := .help, letter := some 'h', help := "Print help" }

def versionArgument : Argument :=
  { name := "version", form := .version, letter := some 'V', help := "Print version" }

def presetName (p : Preset) : String :=
  match p with
  | .test1 .. => "test1"
  | .test2 => "test2"
  | .cgi .. => "cgi"
  | .noh2 => "noh2"

def presets : List Preset :=
  [.test1 false false, .test2, .cgi false false, .noh2]

def programSpec : CommandSpec where
  name := "httpd-harness"
  about := "Drives an httpd instance for protocol tests."
  arguments := [
    { name := "config", form := .option, kind := .path, valueName := "file"
      help := "Config file." },
    { name := "logfile", form := .option, kind := .path, valueName := "file"
      help := "File to log to." },
    { name := "loglevel", form := .option, valueName := "x", default := some "2"
      help := "Log level (default: 2)." },
    { name := "verbose", form := .flag, help := "Verbose output. Same as --loglevel=3." },
    helpArgument, versionArgument]

def commandSpecs : List CommandSpec := [
  ⟨"setup", "Recreate the server directory from the test sources", [helpArgument]⟩,
  ⟨"start", "Start the server", [helpArgument]⟩,
  ⟨"stop", "Stop the server", [helpArgument]⟩,
  ⟨"reload", "Gracefully reload the server configuration", [helpArgument]⟩,
  ⟨"restart", "Reload a running server, or start it", [
    { name := "hard", form := .flag, help := "Stop and start instead of reloading." },
    helpArgument]⟩,
  ⟨"probe", "Request urls with curl and show the responses", [
    { name := "url", form := .words, valueName := "url", required := true },
    { name := "insecure", form := .flag, help := "Skip certificate checks." },
    { name := "timeout", form := .option, kind := .number, valueName := "secs"
      default := some "10", help := "Timeout in seconds." },
    { name := "options", form := .rest, valueName := "curl options" },
    helpArgument]⟩,
  ⟨"conf", "Generate the test configuration", [
    { name := "preset", form := .options, kind := .choice (presets.map presetName)
      valueName := "name" },
    { name := "extra", form := .options, valueName := "KEY=DIRECTIVE" },
    { name := "h2", form := .flag, help := "Generate HTTP/2 configuration." },
    { name := "install", form := .flag, help := "Install instead of printing." },
    helpArgument]⟩]

inductive Task where
  | setup
  | start
  | stop
  | reload
  | restart (hard : Bool)
  | probe (urls : List String) (insecure : Bool) (timeout : Nat) (options : List String)
  | conf (presets : List Preset) (extras : List String) (http2 install : Bool)
  deriving DecidableEq, Repr

def presetLabel (p : Preset) : String :=
  match p with
  | .test1 .. => "Test1"
  | .test2 => "Test2"
  | .cgi .. => "Cgi"
  | .noh2 => "Noh2"

def Task.text : Task → String
  | setup => "Setup"
  | start => "Start"
  | stop => "Stop"
  | reload => "Reload"
  | restart hard => "Restart \x7b hard: " ++ toString hard ++ " \x7d"
  | probe urls insecure timeout options =>
    "Probe \x7b urls: " ++ Text.quoteList urls ++ ", insecure: " ++ toString insecure ++
      ", timeout: " ++ toString timeout ++ ", options: " ++ Text.quoteList options ++ " \x7d"
  | conf presets extras http2 install =>
    "Conf \x7b presets: [" ++ Text.joinWith ", " (presets.map presetLabel) ++ "], extras: " ++
      Text.quoteList extras ++ ", h2: " ++ toString http2 ++ ", install: " ++ toString install ++
      " \x7d"

def Task.ofGiven (command : String) (g : Given) : Task :=
  match command with
  | "setup" => .setup
  | "start" => .start
  | "stop" => .stop
  | "reload" => .reload
  | "restart" => .restart (g.contains "hard")
  | "probe" =>
    let timeout := ((g.value? "timeout").bind fun s => Numeral.signedRead? Numeral.max64 s.toList)
    .probe (g.values "url") (g.contains "insecure") (timeout.getD 10) (g.values "options")
  | _ =>
    .conf ((g.values "preset").filterMap fun n => presets.find? (presetName · = n))
      (g.values "extra") (g.contains "h2") (g.contains "install")

structure Arguments where
  configFile : Option Path := none
  logFile : Option Path := none
  verbosity : Nat := 2
  task : Task
  deriving DecidableEq, Repr

inductive Refusal where
  | usage (e : UsageError)
  | logLevel
  deriving DecidableEq, Repr

/-- What is said of a log level that is no number of a byte. -/
def logLevelMessage : String :=
  "log level must be greater than or equal to 0"

def verbosity? (g : Given) : Option Nat :=
  if g.contains "verbose" then some 3
  else match g.value? "loglevel" with
    | none => some 2
    | some s => Numeral.signedRead? 255 (Text.trim s.toList)

def read (words : List String) : Except Refusal Arguments := do
  let call ← (readCall programSpec commandSpecs words).mapError .usage
  match verbosity? call.given with
  | none => throw .logLevel
  | some v => return {
      configFile := (call.given.value? "config").map Path.mk
      logFile := (call.given.value? "logfile").map Path.mk
      verbosity := v
      task := .ofGiven call.command call.arguments }

end WebTestbed.CommandLine
