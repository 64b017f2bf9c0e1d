import WebTestbed.Url.Address
import WebTestbed.Url.DomainName
import WebTestbed.Url.Percent

/-! URLs and their parts. -/
namespace WebTestbed

inductive UrlError where
  | noScheme
  | emptyHost
  | invalidPort
  | invalidIpv4
  | invalidIpv6
  | invalidDomain
  | invalidHostCharacter
  deriving DecidableEq, Repr

def UrlError.message : UrlError → String
  | noScheme => "relative URL without a base"
  | emptyHost => "empty host"
  | invalidPort => "invalid port number"
  | invalidIpv4 => "invalid IPv4 address"
  | invalidIpv6 => "invalid IPv6 address"
  | invalidDomain => "invalid international domain name"
  | invalidHostCharacter => "invalid domain character"

inductive SchemeClass where
  | web
  | file
  | other
  deriving DecidableEq, Repr

namespace SchemeClass

def ofScheme (s : String) : SchemeClass :=
  if s = "file" then file
  else if ["http", "https", "ws", "wss", "ftp"].contains s then web
  else other

/-- In special URLs a backslash counts as a slash. -/
def isSpecial (c : SchemeClass) : Bool :=
  c ≠ other

end SchemeClass

inductive UrlHost where
  | name (s : String)
  | ipv4 (n : Nat)
  | ipv6 (groups : List Nat)
  deriving DecidableEq, Repr

namespace UrlHost

def write : UrlHost → String
  | name s => s
  | ipv4 n => Ipv4.write n
  | ipv6 l => "[" ++ Ipv6.write l ++ "]"

def readIpv6 (s : List Char) : Except UrlError UrlHost :=
  if s.getLast? ≠ some ']' then .error .invalidIpv6
  else match Ipv6.read? s.dropLast with
    | some l => .ok (.ipv6 l)
    | none => .error .invalidIpv6

def domain? (s : List Char) : Option (List Char) :=
  (Utf8.decode? (Percent.decode s)).bind DomainName.toAscii?

def read (s : List Char) : Except UrlError UrlHost :=
  match s with
  | '[' :: r => readIpv6 r
  | s => match domain? s with
    | none => .error .invalidDomain
    | some [] => .error .emptyHost
    | some d =>
      if Ipv4.endsInNumber d then match Ipv4.read? d with
        | some n => .ok (.ipv4 n)
        | none => .error .invalidIpv4
      else .ok (.name (String.ofList d))

def isForbidden (c : Char) : Bool :=
  "\x00\t\n\r #/:<>?@[\\]^|".toList.contains c

/-- Reads the host of any other URL, which may be empty. -/
def readOpaque (s : List Char) : Except UrlError (Option UrlHost) :=
  match s with
  | [] => .ok none
  | '[' :: r => (readIpv6 r).map some
  | s =>
    if s.any isForbidden then .error .invalidHostCharacter
    else .ok (some (.name (String.ofList (Percent.encode "" s))))

end UrlHost

/-- A URL. The user part is as it stands before the at sign, and `rest` is all that follows host and
port. -/
structure Url where
  scheme : String
  hasAuthority : Bool
  user : String := ""
  host : Option UrlHost
  port : Option UInt16
  rest : String
  deriving DecidableEq, Repr

namespace Url

def knownPort? (scheme : String) : Option UInt16 :=
  if scheme = "http" || scheme = "ws" then some 80
  else if scheme = "https" || scheme = "wss" then some 443
  else if scheme = "ftp" then some 21
  else none

def portOrKnown? (u : Url) : Option UInt16 :=
  u.port.or (knownPort? u.scheme)

def write (u : Url) : String :=
  u.scheme ++ ":" ++
    (if u.hasAuthority then
      "//" ++ u.user ++ (if u.user.isEmpty then "" else "@") ++ (u.host.map (·.write)).getD "" ++
        (u.port.map fun p => ":" ++ toString p.toNat).getD ""
    else "") ++ u.rest

end WebTestbed.Url
