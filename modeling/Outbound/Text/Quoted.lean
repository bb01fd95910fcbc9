import Outbound.Text.CharClass

namespace Outbound

/-- How a character is written between the given quotes: the usual short escapes, itself when it
is visible, and otherwise its code point in hexadecimal. -/
def escapeChar (quote : Char) (c : Char) : List Char :=
  if c = quote then ['\\', c]
  else match c with
    | '\\' => ['\\', '\\']
    | '\x00' => ['\\', '0']
    | '\t' => ['\\', 't']
    | '\n' => ['\\', 'n']
    | '\r' => ['\\', 'r']
    | c =>
      if isVisible c then [c]
      else ['\\', 'u', '\x7b'] ++ Nat.toDigits 16 c.toNat ++ ['\x7d']

/-- A text between double quotes, escaped for display. -/
def quoted (s : String) : String :=
  String.ofList ('"' :: (s.toList.flatMap (escapeChar '"') ++ ['"']))

/-- A character between single quotes, escaped for display. -/
def quotedChar (c : Char) : String :=
  String.ofList ('\x27' :: (escapeChar '\x27' c ++ ['\x27']))

end Outbound
