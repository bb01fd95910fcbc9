import Outbound.Decimal.Digits
import Outbound.Pattern.Modes

namespace Outbound.Pattern

/-- What one place of a pattern stands for. -/
inductive Symbol where
  /-- a character, which may be given by the two hexadecimal digits of a byte -/
  | literal (c : Char) (asByte : Bool)
  /-- the digits, the white space or the characters of words, or all but these -/
  | kind (negated : Bool)
  /-- any character -/
  | any
  /-- the beginning or the end of a line or of the text -/
  | edge
  /-- a place where a word begins or ends, or one where none does -/
  | wordEdge

namespace Symbol

/-- Reads `count` hexadecimal digits on from the value `n`. -/
def hexNumber? (m : Modes) : Nat → Nat → List Char → Option (Nat × List Char)
  | 0, n, s => some (n, s)
  | count + 1, n, s =>
    match m.skip s with
    | [] => none
    | c :: s => do hexNumber? m count (n * 16 + (← hexValue c)) s

/-- The character whose code point is written with `count` hexadecimal digits. -/
def hexLiteral? (m : Modes) (count : Nat) (s : List Char) : Option (Symbol × List Char) := do
  let (n, s) ← hexNumber? m count 0 s
  if n.isValidChar then some (.literal (Char.ofNat n) (count == 2), s) else none

/-- Reads what follows a backslash. Other ASCII characters than letters and digits stand for
themselves; back references are not known, nor are properties of characters. -/
def escaped? (m : Modes) : List Char → Option (Symbol × List Char)
  | [] => none
  | c :: s =>
    match c with
    | 'x' => hexLiteral? m 2 s
    | 'u' => hexLiteral? m 4 s
    | 'U' => hexLiteral? m 8 s
    | 'd' | 's' | 'w' => some (.kind false, s)
    | 'D' | 'S' | 'W' => some (.kind true, s)
    | 'a' => some (.literal '\x07' false, s)
    | 't' => some (.literal '\t' false, s)
    | 'n' => some (.literal '\n' false, s)
    | 'v' => some (.literal '\x0b' false, s)
    | 'f' => some (.literal '\x0c' false, s)
    | 'r' => some (.literal '\r' false, s)
    | 'A' | 'z' => some (.edge, s)
    | 'b' | 'B' | '<' | '>' => some (.wordEdge, s)
    | c => if c.toNat < 0x80 && !c.isAlphanum then some (.literal c false, s) else none

/-- Reads a character of a set, in which only the backslash has a meaning of its own. -/
def inSet? (m : Modes) : List Char → Option (Symbol × List Char)
  | [] => none
  | '\\' :: s => escaped? m s
  | c :: s => some (.literal c false, s)

/-- Reads a symbol outside of sets. -/
def read? (m : Modes) : List Char → Option (Symbol × List Char)
  | '.' :: s => some (.any, s)
  | '^' :: s => some (.edge, s)
  | '$' :: s => some (.edge, s)
  | s => inSet? m s

/-- Whether a symbol can be matched. Whole characters are matched, so that no byte beyond ASCII can
be asked for by itself, and no table of Unicode's cases, kinds and words is at hand. -/
def isAdmitted (m : Modes) : Symbol → Bool
  | literal c asByte => if m.unicode then !m.caseless else !(asByte && 0x7F < c.toNat)
  | kind negated => !m.unicode && !negated
  | any => m.unicode
  | edge => true
  | wordEdge => !m.unicode

/-- Whether a symbol can be a member of a set. Without Unicode, members are single bytes. -/
def isMember (m : Modes) : Symbol → Bool
  | literal c _ => if m.unicode then !m.caseless else c.toNat ≤ 0x7F
  | kind negated => !m.unicode && !negated
  | _ => false

end Symbol

end Outbound.Pattern
