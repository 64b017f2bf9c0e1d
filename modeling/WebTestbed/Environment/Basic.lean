import WebTestbed.Environment.Tls
import WebTestbed.Settings.Basic
import WebTestbed.Session

/-! The environment of the tests: programs, ports, names, places and certificates. -/
namespace WebTestbed

structure Environment where
  installDir : Path
  apxs : String
  apachectl : String
  curl : String
  nghttp : String
  h2load : String
  httpPort : UInt16
  httpsPort : UInt16
  proxyPort : UInt16
  domain : String
  testDir : Path
  genDir : Path
  serverDir : Path
  moduleDir : Path
  sharedModules : List String
  staticModules : List String
  mpmModule : String
  tls : Option TlsModule
  baseConf : List String
  caDir : Path
  certificates : List CertificateSpec
  deriving DecidableEq, Repr

namespace Environment

def address : String := "127.0.0.1"

/-- The TLS module that is chosen by name; without a name it is the first. -/
def chooseTls : Option String → Option TlsModule
  | none => some .ssl
  | some s => TlsModule.ofName? s

def ofSettings (s : Settings) (workDir : Path) (tls mpm : Option String) : Environment :=
  let genDir := workDir.join s.test.genDir
  let serverDir := genDir.join "apache"
  let d := s.test.domain
  { installDir := s.programs.installDir
    apxs := s.programs.apxs
    apachectl := s.programs.apachectl
    curl := s.programs.curl
    nghttp := s.programs.nghttp
    h2load := s.programs.h2load
    httpPort := s.test.httpPort
    httpsPort := s.test.httpsPort
    proxyPort := s.test.proxyPort
    domain := d
    testDir := workDir.join s.test.testDir
    genDir := genDir
    serverDir := serverDir
    moduleDir := s.server.moduleDir
    sharedModules := s.sharedModules
    staticModules := s.staticModules
    mpmModule := "mpm_" ++ mpm.getD "event"
    tls := chooseTls tls
    baseConf := []
    caDir := serverDir.join "ca"
    certificates := [⟨["test1." ++ d, "test2." ++ d, "test3." ++ d, "cgi." ++ d]⟩] }

def addBaseConf (e : Environment) (lines : List String) : Environment :=
  { e with baseConf := e.baseConf ++ lines }

def addCertificates (e : Environment) (specs : List CertificateSpec) : Environment :=
  { e with certificates := e.certificates ++ specs }

def logLevel : Nat → String
  | 0 => "info"
  | 1 => "debug"
  | _ => "trace2"

def addLogModules (e : Environment) (modules : List String) (verbosity : Nat) : Environment :=
  if modules.isEmpty then e
  else e.addBaseConf
    ["LogLevel" ++ String.join (modules.map fun m => " " ++ m ++ ":" ++ logLevel verbosity)]

def httpBaseUrl (e : Environment) : String :=
  "http://" ++ address ++ ":" ++ toString e.httpPort.toNat

def httpsBaseUrl (e : Environment) : String :=
  "https://" ++ address ++ ":" ++ toString e.httpsPort.toNat

def confDir (e : Environment) : Path := e.serverDir.join "conf"
def docsDir (e : Environment) : Path := e.serverDir.join "htdocs"
def logsDir (e : Environment) : Path := e.serverDir.join "logs"
def errorLogFile (e : Environment) : Path := e.logsDir.join "error_log"
def accessLogFile (e : Environment) : Path := e.logsDir.join "access_log"
def serverConfFile (e : Environment) : Path := e.confDir.join "httpd.conf"
def testConfFile (e : Environment) : Path := e.confDir.join "test.conf"
def modulesConfFile (e : Environment) : Path := e.confDir.join "modules.conf"
def headerFile (e : Environment) : Path := e.genDir.join "curl.headers"
def caFile (e : Environment) : Path := e.caDir.join "ca.pem"

def host (e : Environment) (name : String) : String :=
  name ++ "." ++ e.domain

def cgiHost (e : Environment) : String := e.host "cgi"

def hasNghttp (e : Environment) : Bool := !e.nghttp.isEmpty
def hasH2load (e : Environment) : Bool := !e.h2load.isEmpty

def url (e : Environment) (scheme name path : String) : String :=
  let port := if scheme = "https" then e.httpsPort else e.httpPort
  scheme ++ "://" ++ e.host name ++ ":" ++ toString port.toNat ++ path

/-- The certificate of a name: that of the first list that holds it. -/
def credentials? (e : Environment) (domain : String) : Option Credentials :=
  e.certificates.findSome? (·.credentials? e.caDir domain)

def templateVariables (e : Environment) : List (String × String) :=
  [("gen_dir", e.genDir.text), ("http_addr", address), ("http_base_url", e.httpBaseUrl),
    ("http_port", toString e.httpPort.toNat), ("http_tld", e.domain),
    ("https_base_url", e.httpsBaseUrl), ("https_port", toString e.httpsPort.toNat),
    ("libexec_dir", e.moduleDir.text), ("mpm_module", e.mpmModule), ("prefix", e.installDir.text),
    ("proxy_port", toString e.proxyPort.toNat), ("server_conf_dir", e.confDir.text),
    ("server_dir", e.serverDir.text), ("server_docs_dir", e.docsDir.text),
    ("server_logs_dir", e.logsDir.text), ("ssl_module", (e.tls.map (·.name)).getD ""),
    ("test_dir", e.testDir.text)]

/-- A variable that the server was built with; without one it is empty. -/
def buildVariable (e : Environment) (run : Runner σ) (name : String) : Action σ String := do
  let r ← run { args := [e.apxs, "-q", name] }
  return if r.succeeded then Text.trimmed r.stdout else ""

def serverVersion (e : Environment) (run : Runner σ) : Action σ String := do
  let v ← e.buildVariable run "HTTPD_VERSION"
  return if v.isEmpty then "unknown" else v

end WebTestbed.Environment
