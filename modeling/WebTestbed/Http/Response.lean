import WebTestbed.Http.Headers
import WebTestbed.Http.StatusLine
import WebTestbed.Text.Lines
import WebTestbed.Text.Utf8

/-! Responses and chains of them: a final response after the interim responses it follows. -/
namespace WebTestbed.Http

structure Response where
  protocol : String
  status : UInt16
  reason : String
  headers : Headers
  body : Bytes
  deriving DecidableEq, Repr

namespace Response

def ofStatus (s : StatusLine) : Response :=
  ⟨s.protocol, s.code, s.reason, .empty, []⟩

def statusLine (r : Response) : StatusLine :=
  ⟨r.protocol, r.status, r.reason⟩

/-- Interim responses have a code from 100 to 199. -/
def isInformational (r : Response) : Bool :=
  100 ≤ r.status && r.status < 200

def withHeader (r : Response) (field : String × String) : Response :=
  { r with headers := r.headers.insert field.1 field.2 }

def renderHead (r : Response) : String :=
  Text.unlines (r.statusLine.render :: r.headers.entries.map renderHeader ++ [""])

end Response

/-- A response and those that came before it on the same stream, newest first. -/
structure Chain where
  head : Response
  earlier : List Response
  deriving DecidableEq, Repr

namespace Chain

def toList (c : Chain) : List Response :=
  c.head :: c.earlier

def size (c : Chain) : Nat :=
  c.toList.length

/-- Puts a response on top of the chain, if there is one yet. -/
def push (r : Response) : Option Chain → Chain
  | none => ⟨r, []⟩
  | some c => ⟨r, c.toList⟩

def withBody (c : Chain) (body : Bytes) : Chain :=
  { c with head := { c.head with body := body } }

def withHeader (c : Chain) (field : String × String) : Chain :=
  { c with head := c.head.withHeader field }

def renderHeads (c : Chain) : String :=
  c.toList.reverse.foldr (fun r s => r.renderHead ++ s) ""

/-- The chain as text: the heads, oldest first, and the body of the newest response as it is. -/
def render (c : Chain) : Bytes :=
  Utf8.encode c.renderHeads ++ c.head.body

end Chain

end WebTestbed.Http
