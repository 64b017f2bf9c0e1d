import WebTestbed.Directive.Document
import WebTestbed.Directive.Extras
import WebTestbed.Environment.Basic

/-! Server configurations for the tests, built host by host. -/
namespace WebTestbed

inductive Flavour where
  | plain
  | http2
  deriving DecidableEq, Repr

/-- A virtual host: its name, other names, port, document root, and whether it serves TLS on any
port. -/
structure Host where
  name : String
  aliases : List String := []
  port : Option UInt16 := none
  root : String
  withTls : Bool := false
  deriving DecidableEq, Repr

structure ServerConfig where
  env : Environment
  extras : Extras
  flavour : Flavour
  document : Document

namespace ServerConfig

def cgiExtras (e : Environment) : Extras :=
  Extras.empty.insert e.cgiHost ["SSLOptions +StdEnvVars", "AddHandler cgi-script .py"]

/-- The extras that are used: those given, and with HTTP/2 those of the host of programs after them.
-/
def usedExtras (e : Environment) (flavour : Flavour) (extras : Option Extras) : Extras :=
  match flavour with
  | .plain => extras.getD .empty
  | .http2 => (Extras.merge extras (some (cgiExtras e))).getD .empty

def start (e : Environment) (flavour : Flavour) (extras : Option Extras) : ServerConfig :=
  let x := usedExtras e flavour extras
  ⟨e, x, flavour, Document.empty.add ((x.get? Extras.baseKey).getD [])⟩

def add (c : ServerConfig) (texts : List String) : ServerConfig :=
  { c with document := c.document.add texts }

/-- The port of a host; hosts without one use that of https. -/
def portOf (c : ServerConfig) (h : Host) : UInt16 :=
  h.port.getD c.env.httpsPort

/-- Whether a host serves TLS: on the port of https, or where it is asked for. -/
def servesTls (c : ServerConfig) (h : Host) : Bool :=
  c.portOf h = c.env.httpsPort || h.withTls

/-- The lines that give a certificate to a host; without a TLS module there are none. -/
def certificateLines (c : ServerConfig) (x : Credentials) : List String :=
  match c.env.tls with
  | none => []
  | some m => m.certificateDirectives x

def tlsLines (c : ServerConfig) (h : Host) : List String :=
  if c.servesTls h then
    (c.env.tls.bind (·.engineDirective)).toList ++
      ((c.env.credentials? h.name).map c.certificateLines).getD []
  else []

def protocols (c : ServerConfig) (h : Host) : List String :=
  let names := h.name :: h.aliases
  let l :=
    if names.contains (c.env.host "noh2") then ["http/1.1"]
    else if c.servesTls h then ["h2", "http/1.1"]
    else ["h2c", "http/1.1"]
  if names.contains (c.env.host "test2") then l.reverse else l

def protocolLines (c : ServerConfig) (h : Host) : List String :=
  match c.flavour with
  | .plain => []
  | .http2 => ["Protocols " ++ Text.joinWith " " (c.protocols h)]

def hostLines (h : Host) : List String :=
  ("ServerName " ++ h.name) :: h.aliases.map ("ServerAlias " ++ ·) ++ ["DocumentRoot " ++ h.root]

def openingLines (c : ServerConfig) (h : Host) : List String :=
  hostLines h ++ c.tlsLines h ++ (c.extras.get? h.name).getD [] ++ c.protocolLines h

def openHost (c : ServerConfig) (h : Host) : ServerConfig :=
  let d := c.document.add ["", "<VirtualHost *:" ++ toString (c.portOf h).toNat ++ ">"]
  { c with document := d.push.add (c.openingLines h) }

def closeHost (c : ServerConfig) : ServerConfig :=
  { c with document := c.document.leave.add ["</VirtualHost>", ""] }

def startHost (c : ServerConfig) (domains : List String) (port : Option UInt16) (root : String)
    (withTls : Bool) : Except BlockFault ServerConfig :=
  match domains with
  | [] => .error .noServerName
  | name :: aliases => .ok (c.openHost ⟨name, aliases, port, root, withTls⟩)

def endHost (c : ServerConfig) : Except BlockFault ServerConfig :=
  if c.document.depth = 0 then .error .noOpenBlock else .ok c.closeHost

/-- Adds a host of which no more than the start is needed. It serves TLS. -/
def addHost (c : ServerConfig) (domains : List String) (port : Option UInt16) (root : String) :
    Except BlockFault ServerConfig :=
  (c.startHost domains port root true).bind endHost

def addCertificate (c : ServerConfig) (x : Credentials) : ServerConfig :=
  c.add (c.certificateLines x)

def proxyLines (e : Environment) (host : String) (self selfHttp2 : Bool) : List String :=
  let http := toString e.httpPort.toNat
  let https := toString e.httpsPort.toNat
  (if self || selfHttp2 then ["ProxyPreserveHost on"] else []) ++
  (if self then
    ["ProxyPass /proxy/ http://127.0.0.1:" ++ http ++ "/",
      "ProxyPassReverse /proxy/ http://" ++ e.host host ++ ":" ++ http ++ "/"]
  else []) ++
  (if selfHttp2 then
    ["ProxyPass /h2proxy/ h2://127.0.0.1:" ++ https ++ "/",
      "ProxyPassReverse /h2proxy/ https://" ++ e.host host ++ ":" ++ https ++ "/"]
  else [])

def addProxies (c : ServerConfig) (host : String) (self selfHttp2 : Bool) : ServerConfig :=
  c.add (proxyLines c.env host self selfHttp2)

end WebTestbed.ServerConfig
