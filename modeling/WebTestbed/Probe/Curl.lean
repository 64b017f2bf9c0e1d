import WebTestbed.Environment.Basic
import WebTestbed.Http.ChainReader
import WebTestbed.Probe.Basic
import WebTestbed.Url.Parser

/-! Requests to the server by way of curl, which writes the headers of all responses to a file. -/
namespace WebTestbed

structure CurlOptions where
  timeout : Option Duration := some (.ofSeconds 10)
  options : List String := []
  insecure : Bool := false
  /-- Whether the host is looked up at the address of the server. -/
  forceResolve : Bool := true
  deriving DecidableEq, Repr

def CurlOptions.withOptions (o : CurlOptions) (more : List String) : CurlOptions :=
  { o with options := o.options ++ more }

inductive ProbeError where
  | invalidUrl (e : UrlError)
  | missingHost (url : String)
  | missingPort (url : String)
  | headers (e : Http.ChainError)
  | file (e : FileError)
  deriving DecidableEq, Repr

def ProbeError.message : ProbeError → String
  | invalidUrl e => "invalid url: " ++ e.message
  | missingHost url => "url has no host: " ++ url
  | missingPort url => "url has no port: " ++ url
  | headers e => "malformed response headers: " ++ e.message
  | file e => e.message

abbrev Attempt (σ : Type) := ExceptT ProbeError (Action σ)

namespace Curl

def exitTooLate : Int := 28

/-- What of a URL decides how the request is made. -/
structure Target where
  scheme : String
  host : String
  port : UInt16
  deriving DecidableEq, Repr

def readTarget (urls : List String) : Except ProbeError Target :=
  match urls with
  | [] => .error (.invalidUrl .emptyHost)
  | u :: _ => match Url.read u with
    | .error e => .error (.invalidUrl e)
    | .ok url => match url.host, url.portOrKnown? with
      | none, _ => .error (.missingHost url.write)
      | some _, none => .error (.missingPort url.write)
      | some host, some port => .ok ⟨url.scheme, host.write, port⟩

/-- Hosts that need not be looked up. -/
def isLiteral (host : String) : Bool :=
  host = "localhost" || host = Environment.address ||
    host.toList.head?.any fun c => c.isDigit || c = '[' || c = ':'

def certificateArgs (e : Environment) (o : CurlOptions) (t : Target) : List String :=
  if t.scheme ≠ "https" then []
  else if o.insecure then ["--insecure"]
  else if !o.options.contains "--cacert" && (e.credentials? t.host).isSome then
    ["--cacert", e.caFile.text]
  else []

def resolveArgs (o : CurlOptions) (t : Target) : List String :=
  if o.forceResolve && !isLiteral t.host then
    ["--resolve", t.host ++ ":" ++ toString t.port.toNat ++ ":" ++ Environment.address]
  else []

def timeoutArgs (o : CurlOptions) : List String :=
  match o.timeout with
  | none => []
  | some d => ["--connect-timeout", d.decimalSeconds]

/-- The command of a request. The first URL decides on the options. -/
def command (e : Environment) (o : CurlOptions) (urls : List String) :
    Except ProbeError (List String) := do
  let t ← readTarget urls
  return [e.curl, "-s", "-D", e.headerFile.text] ++
    (certificateArgs e o t ++ resolveArgs o t ++ timeoutArgs o) ++ o.options ++ urls

def source : String := "httpd_harness::curl"

def readerSource : String := "httpd_harness::response"

def removeStale (t : FileTree) (p : Path) : Except FileError FileTree :=
  match t.removeFile p with
  | .error .notFound => .ok t
  | r => r

/-- The content of the header file; without one there are no headers. -/
def headerContent (t : FileTree) (p : Path) : Except FileError Bytes :=
  match t.read p with
  | .error .notFound => .ok []
  | r => r

def lineNotice (l : Http.LineKind × String) : String :=
  match l.1 with
  | .status => "reading status line: " ++ l.2
  | .header => "reading header line: " ++ l.2

/-- Makes a request for the URLs. The responses are read only if curl succeeds. -/
def request (e : Environment) (run : Runner σ) (o : CurlOptions) (urls : List String) :
    Attempt σ Command.Result := do
  let args ← ExceptT.mk (return command e o urls)
  let _ ← ExceptT.mk (return (← Action.changeFiles (removeStale · e.headerFile)).mapError .file)
  let r ← run { args := args, timeout := o.timeout }
  if r.succeeded then
    let stream ← ExceptT.mk
      (return (← Action.readFiles (headerContent · e.headerFile)).mapError .file)
    (Http.streamLinesRead stream).forM fun l =>
      Action.tell (σ := σ) .trace readerSource (lineNotice l)
    let chain ← ExceptT.mk (return (Http.readChain stream r.output).mapError .headers)
    return r.withResponse chain
  else
    Action.tell (σ := σ) .debug source ("curl exited with " ++ toString r.exitCode)
    return r

def postData (e : Environment) (run : Runner σ) (o : CurlOptions) (url data : String) :
    Attempt σ Command.Result :=
  request e run (o.withOptions ["--data", data]) [url]

def postField (e : Environment) (run : Runner σ) (o : CurlOptions) (url name value : String) :
    Attempt σ Command.Result :=
  request e run (o.withOptions ["--form", name ++ "=" ++ value]) [url]

def upload (e : Environment) (run : Runner σ) (o : CurlOptions) (url : String) (path : Path) :
    Attempt σ Command.Result :=
  request e run (o.withOptions ["--form", "file=@" ++ path.text]) [url]

def protocolVersion (e : Environment) (run : Runner σ) (o : CurlOptions) (url : String) :
    Attempt σ (Option String) := do
  let r ← request e run (o.withOptions ["-w", "%\x7bhttp_version\x7d\n", "-o", "/dev/null"]) [url]
  let version := Text.trimmed r.stdout
  return if r.succeeded && !version.isEmpty then some version else none

def attempt (e : Environment) (run : Runner σ) (url : String) (d : Duration) :
    Action σ (Option Command.Result) := do
  match ← (request e run { timeout := some d, insecure := true } [url]).run with
  | .ok r => return some r
  | .error err =>
    Action.tell .debug source ("probe of " ++ url ++ " failed: " ++ err.message)
    return none

/-- Whether a request ended in a way that shows that the server is not reachable. -/
def showsRefusal (code : Int) : Bool :=
  code ≠ 0 && code ≠ Command.exitTimeout && code ≠ exitTooLate

def probe (e : Environment) (run : Runner σ) : Probe σ where
  answers url d := return (← attempt e run url d).any (·.succeeded)
  refuses url d := return (← attempt e run url d).any (showsRefusal ·.exitCode)

end WebTestbed.Curl
