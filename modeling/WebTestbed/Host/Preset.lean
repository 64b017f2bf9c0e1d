import WebTestbed.Host.Basic

/-! The hosts that tests use, ready to be added. -/
namespace WebTestbed

/-- A host of the tests on both ports. `self` and `selfHttp2` make it pass requests on to the
server. -/
inductive Preset where
  | test1 (self selfHttp2 : Bool)
  | test2
  | cgi (self selfHttp2 : Bool)
  | noh2
  deriving DecidableEq, Repr

namespace ServerConfig

def indexLines : List String :=
  ["<Location /006>", "    Options +Indexes", "    HeaderName /006/header.html", "</Location>"]

def handlerLines : List String :=
  ["<Location \"/h2test/echo\">", "    SetHandler h2test-echo", "</Location>",
    "<Location \"/h2test/delay\">", "    SetHandler h2test-delay", "</Location>"]

def proxyingLines (self selfHttp2 : Bool) : List String :=
  (if self then
    ["ProxyStatus on", "ProxyTimeout 5", "SSLProxyEngine on", "SSLProxyVerify none"] else []) ++
  (if selfHttp2 then ["SSLProxyEngine on", "SSLProxyCheckPeerName off"] else [])

def addHostWith (c : ServerConfig) (h : Host) (lines : List String) : ServerConfig :=
  ((c.openHost h).add lines).closeHost

def testHost (e : Environment) (name other : String) (port : UInt16) : Host :=
  { name := e.host name, aliases := [e.host other], port := some port, root := "htdocs/" ++ name }

def addPreset (c : ServerConfig) : Preset → ServerConfig
  | .test1 self selfHttp2 =>
    (c.addHostWith (testHost c.env "test1" "www1" c.env.httpPort) []).addHostWith
      (testHost c.env "test1" "www1" c.env.httpsPort)
      (indexLines ++ proxyLines c.env "test1" self selfHttp2)
  | .test2 =>
    (c.addHostWith (testHost c.env "test2" "www2" c.env.httpPort) []).addHostWith
      (testHost c.env "test2" "www2" c.env.httpsPort) indexLines
  | .cgi self selfHttp2 =>
    let c := c.add (proxyingLines self selfHttp2)
    let proxies := proxyLines c.env "cgi" self selfHttp2
    let c := c.addHostWith (testHost c.env "cgi" "cgi-alias" c.env.httpsPort)
      (proxies ++ handlerLines)
    let c := c.addHostWith (testHost c.env "cgi" "cgi-alias" c.env.httpPort)
      ("AddHandler cgi-script .py" :: proxies)
    c.add ["LogLevel proxy:info", "LogLevel proxy_http:info"]
  | .noh2 =>
    let lines := ["Protocols http/1.1", "SSLOptions +StdEnvVars"]
    (c.addHostWith (testHost c.env "noh2" "noh2-alias" c.env.httpsPort) lines).addHostWith
      (testHost c.env "noh2" "noh2-alias" c.env.httpPort) lines

inductive Step where
  | add (texts : List String)
  | startHost (domains : List String) (port : Option UInt16) (root : String) (withTls : Bool)
  | endHost
  | addHost (domains : List String) (port : Option UInt16) (root : String)
  | addProxies (host : String) (self selfHttp2 : Bool)
  | addCertificate (x : Credentials)
  | addPreset (p : Preset)
  deriving DecidableEq, Repr

def apply (c : ServerConfig) : Step → Except BlockFault ServerConfig
  | .add texts => .ok (c.add texts)
  | .startHost domains port root withTls => c.startHost domains port root withTls
  | .endHost => c.endHost
  | .addHost domains port root => c.addHost domains port root
  | .addProxies host self selfHttp2 => .ok (c.addProxies host self selfHttp2)
  | .addCertificate x => .ok (c.addCertificate x)
  | .addPreset p => .ok (c.addPreset p)

/-- What is left of a configuration after a call. One that does not fit changes nothing. -/
def step (c : ServerConfig) (s : Step) : ServerConfig :=
  match c.apply s with
  | .ok c' => c'
  | .error _ => c

def ofPresets (e : Environment) (presets : List Preset) (assignments : List String)
    (flavour : Flavour) : Except Extras.InvalidAssignment ServerConfig := do
  let x ← Extras.ofAssignments assignments
  return presets.foldl addPreset (start e flavour (if x.isEmpty then none else some x))

def http2BaseConf : List String :=
  ["H2MinWorkers 1", "H2MaxWorkers 64", "Protocols h2 http/1.1 h2c"]

def http2Domains (domain : String) : List String :=
  ["push", "hints", "ssl", "pad0", "pad1", "pad2", "pad3", "pad8"].map (· ++ "." ++ domain)

def http2Environment (e : Environment) : Environment :=
  (e.addBaseConf http2BaseConf).addCertificates [⟨http2Domains e.domain⟩]

end WebTestbed.ServerConfig
