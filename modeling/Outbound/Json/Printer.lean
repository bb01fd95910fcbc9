import Outbound.Decimal.Style
import Outbound.Json.Basic

namespace Outbound

namespace Json

/-- Floats are positional from `0.00001` up to sixteen whole digits, and otherwise scientific with
a sign in every exponent. -/
def floatStyle : FloatStyle := ⟨.toEven, -5, 15, true⟩

/-- The four digits of `\u` escapes, in lower case. -/
def hexUnit (n : Nat) : List Char :=
  [Nat.digitChar (n / 4096 % 16), Nat.digitChar (n / 256 % 16), Nat.digitChar (n / 16 % 16),
    Nat.digitChar (n % 16)]

/-- Quotes, backslashes and control characters below the space are escaped, and nothing else. -/
def writeChar (c : Char) : List Char :=
  match c with
  | '"' => ['\\', '"']
  | '\\' => ['\\', '\\']
  | '\x08' => ['\\', 'b']
  | '\t' => ['\\', 't']
  | '\n' => ['\\', 'n']
  | '\x0c' => ['\\', 'f']
  | '\r' => ['\\', 'r']
  | c => if c.toNat < 0x20 then ['\\', 'u'] ++ hexUnit c.toNat else [c]

def writeString (s : String) : List Char :=
  '"' :: (s.toList.flatMap writeChar ++ ['"'])

def writeInt (n : Int) : List Char :=
  (if n < 0 then ['-'] else []) ++ Nat.toDigits 10 n.natAbs

def writeNumber : Number → List Char
  | .int n => writeInt n
  | .float x => floatStyle.float x

/-- Texts with a comma between each two. -/
def commaSeparated : List (List Char) → List Char
  | [] => []
  | [s] => s
  | s :: rest => s ++ ',' :: commaSeparated rest

mutual

/-- The compact text of a value. -/
def write : Json → List Char
  | null => ['n', 'u', 'l', 'l']
  | bool true => ['t', 'r', 'u', 'e']
  | bool false => ['f', 'a', 'l', 's', 'e']
  | number n => writeNumber n
  | string s => writeString s
  | array items => '[' :: (commaSeparated (writeItems items) ++ [']'])
  | object members => '\x7b' :: (commaSeparated (writeMembers members) ++ ['\x7d'])

def writeItems : List Json → List (List Char)
  | [] => []
  | v :: rest => write v :: writeItems rest

def writeMembers : List (String × Json) → List (List Char)
  | [] => []
  | (k, v) :: rest => (writeString k ++ ':' :: write v) :: writeMembers rest

end

/-- The compact text of a value, on one line. -/
def render (v : Json) : String :=
  String.ofList v.write

end Json

end Outbound
