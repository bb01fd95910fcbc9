import Outbound.Decimal.Digits

namespace Outbound

/-- What one place of a string literal stands for: a character, or a UTF-16 unit that is written
with `\u`. -/
inductive Piece where
  | scalar (c : Char)
  | unit (n : Nat)

namespace Literal

/-- What is written up to the closing quote, and the text after that quote. Control characters
below the space must not occur. -/
def body : List Char → Option (List Char × List Char)
  | [] => none
  | '"' :: rest => some ([], rest)
  | '\\' :: c :: rest =>
    if c.toNat < 0x20 then none
    else (body rest).map fun (b, after) => ('\\' :: c :: b, after)
  | c :: rest =>
    if c.toNat < 0x20 then none
    else (body rest).map fun (b, after) => (c :: b, after)

def unitValue (a b c d : Char) : Option Nat := do
  return (((← hexValue a) * 16 + (← hexValue b)) * 16 + (← hexValue c)) * 16 + (← hexValue d)

def shortEscape (c : Char) : Option Char :=
  match c with
  | '"' => some '"'
  | '\\' => some '\\'
  | '/' => some '/'
  | 'b' => some '\x08'
  | 'f' => some '\x0c'
  | 'n' => some '\n'
  | 'r' => some '\r'
  | 't' => some '\t'
  | _ => none

/-- Resolves each escape by itself. -/
def pieces : List Char → Option (List Piece)
  | [] => some []
  | '\\' :: 'u' :: a :: b :: c :: d :: rest => do
    let n ← unitValue a b c d
    return .unit n :: (← pieces rest)
  | '\\' :: c :: rest => do
    let e ← shortEscape c
    return .scalar e :: (← pieces rest)
  | '\\' :: [] => none
  | c :: rest => do return .scalar c :: (← pieces rest)

def isHighSurrogate (n : Nat) : Bool := 0xD800 ≤ n && n < 0xDC00

def isLowSurrogate (n : Nat) : Bool := 0xDC00 ≤ n && n < 0xE000

/-- Joins surrogate pairs; a surrogate that is not part of a pair has no meaning. -/
def join : List Piece → Option (List Char)
  | [] => some []
  | .scalar c :: rest => (join rest).map (c :: ·)
  | .unit high :: .unit low :: rest =>
    if isHighSurrogate high then
      if isLowSurrogate low then
        (join rest).map
          (Char.ofNat (0x10000 + (high - 0xD800) * 0x400 + (low - 0xDC00)) :: ·)
      else none
    else if isLowSurrogate high then none
    else (join (.unit low :: rest)).map (Char.ofNat high :: ·)
  | .unit n :: rest =>
    if isHighSurrogate n || isLowSurrogate n then none
    else (join rest).map (Char.ofNat n :: ·)

/-- The text that the body of a literal stands for. -/
def decode (body : List Char) : Option String := do
  return String.ofList (← join (← pieces body))

end Literal

end Outbound
