import WebTestbed.Files.Path
import WebTestbed.Text.Blank

/-! The TLS modules of the server, and certificates. -/
namespace WebTestbed

inductive TlsModule where
  | ssl
  | tls
  deriving DecidableEq, Repr

structure Credentials where
  certificate : Path
  key : Path
  deriving DecidableEq, Repr

namespace TlsModule

def name : TlsModule → String
  | ssl => "ssl"
  | tls => "tls"

/-- The module of a name; blanks around it do not count. -/
def ofName? (s : String) : Option TlsModule :=
  let s := Text.trimmed s
  if s = "ssl" then some ssl else if s = "tls" then some tls else none

def engineDirective : TlsModule → Option String
  | ssl => some "SSLEngine on"
  | tls => none

def certificateDirectives (m : TlsModule) (c : Credentials) : List String :=
  match m with
  | ssl => ["SSLCertificateFile " ++ c.certificate.text, "SSLCertificateKeyFile " ++ c.key.text]
  | tls => ["TLSCertificate " ++ c.certificate.text ++ " " ++ c.key.text]

@[simp] theorem ofName?_name (m : TlsModule) : ofName? m.name = some m := by
  cases m <;> decide

end TlsModule

/-- Names that share a certificate. The first gives its files their names. -/
structure CertificateSpec where
  domains : List String
  deriving DecidableEq, Repr

namespace CertificateSpec

def credentials? (dir : Path) (domain : String) (s : CertificateSpec) : Option Credentials :=
  if s.domains.contains domain then
    s.domains.head?.map fun name => ⟨dir.join ⟨name ++ ".cert.pem"⟩, dir.join ⟨name ++ ".pkey.pem"⟩⟩
  else none

end CertificateSpec

end WebTestbed
