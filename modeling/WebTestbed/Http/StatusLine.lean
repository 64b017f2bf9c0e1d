import WebTestbed.Text.Blank
import WebTestbed.Text.Cut
import WebTestbed.Text.Numeral

/-! Status lines: protocol, code and reason, one space between each two. -/
namespace WebTestbed.Http

structure StatusLine where
  protocol : String
  code : UInt16
  reason : String
  deriving DecidableEq, Repr

/-- Reads a code: a run of ASCII digits of any length whose value fits in 16 bits. -/
def readCode? (s : List Char) : Option UInt16 :=
  (Numeral.read? s).bind fun n => if h : n < 65536 then some (UInt16.ofNatLT n h) else none

/-- Reads a status line. The space before an empty reason may be missing; every later space belongs
to the reason. -/
def readStatus? (line : List Char) : Option StatusLine := do
  let (protocol, rest) ← Text.cut ' ' line
  if protocol.isEmpty || protocol.any Text.isBlank then none
  let (digits, reason) := (Text.cut ' ' rest).getD (rest, [])
  let code ← readCode? digits
  return ⟨String.ofList protocol, code, String.ofList reason⟩

/-- Writes a status line; the space before the reason is always there. -/
def StatusLine.render (s : StatusLine) : String :=
  s.protocol ++ " " ++ toString s.code.toNat ++ " " ++ s.reason

end WebTestbed.Http
