import WebTestbed.Text.Printable
import WebTestbed.Text.Cut

/-! Quoted text: double quotes around it, and an escape for what cannot be shown as it is. -/
namespace WebTestbed.Text

def hexDigits (n : Nat) : String :=
  String.ofList (Nat.toDigits 16 n)

def escapeCode (c : Char) : String :=
  "\\u\x7b" ++ hexDigits c.toNat ++ "\x7d"

def escapeChar (c : Char) : String :=
  if c = '\x00' then "\\0"
  else if c = '\t' then "\\t"
  else if c = '\r' then "\\r"
  else if c = '\n' then "\\n"
  else if c = '\\' then "\\\\"
  else if c = '"' then "\\\""
  else if isExtender c || !isPrintable c then escapeCode c
  else c.toString

def quote (s : String) : String :=
  "\"" ++ s.toList.foldr (fun c r => escapeChar c ++ r) "" ++ "\""

def quoteList (l : List String) : String :=
  "[" ++ joinWith ", " (l.map quote) ++ "]"

end WebTestbed.Text
