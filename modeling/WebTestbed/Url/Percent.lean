import WebTestbed.Json.Reader

/-! Percent encoding: bytes as a percent sign and two hexadecimal digits. -/
namespace WebTestbed.Percent

def encodeByte (b : UInt8) : List Char :=
  let digit (n : Nat) : Char := (Nat.digitChar n).toUpper
  ['%', digit (b.toNat / 16), digit (b.toNat % 16)]

/-- Encodes what is not ASCII, the ASCII controls, and the given characters. -/
def encode (extra : String) (s : List Char) : List Char :=
  s.flatMap fun c =>
    if c.toNat < 0x20 || 0x7E < c.toNat || extra.toList.contains c then
      (String.utf8EncodeChar c).flatMap encodeByte
    else [c]

def decode : List Char → Bytes
  | [] => []
  | '%' :: a :: b :: r => match Json.hexValue? a, Json.hexValue? b with
    | some x, some y => UInt8.ofNat (16 * x + y) :: decode r
    | _, _ => Utf8.encodeChars ['%'] ++ decode (a :: b :: r)
  | c :: r => String.utf8EncodeChar c ++ decode r

end WebTestbed.Percent
