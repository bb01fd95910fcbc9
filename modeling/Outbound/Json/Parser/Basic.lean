import Outbound.Json.Parser.Literal
import Outbound.Json.Parser.Numeral

namespace Outbound

/-- Reads from the front of a text and gives what is left of it. -/
abbrev Parser (α : Type) := List Char → Option (α × List Char)

namespace Parser

def isSpace (c : Char) : Bool :=
  c == ' ' || c == '\n' || c == '\t' || c == '\r'

def skipSpaces (s : List Char) : List Char :=
  s.dropWhile isSpace

/-- The whole text is one item, with spaces around it. -/
def document {α : Type} (p : Parser α) (s : List Char) : Option α :=
  match p s with
  | some (a, rest) => if (skipSpaces rest).isEmpty then some a else none
  | none => none

/-- What follows an item of a sequence: the end, or a comma and further items. -/
def more {α : Type} (item : Parser α) (close : Char) : Nat → Parser (List α)
  | 0, _ => none
  | fuel + 1, s =>
    match skipSpaces s with
    | [] => none
    | c :: rest =>
      if c = close then some ([], rest)
      else if c = ',' then do
        let (a, rest) ← item rest
        let (as, rest) ← more item close fuel rest
        some (a :: as, rest)
      else none

/-- The items after an opening bracket, with a comma between each two, up to the closing one. -/
def sequence {α : Type} (item : Parser α) (close : Char) : Parser (List α) := fun s =>
  match skipSpaces s with
  | [] => none
  | c :: rest =>
    if c = close then some ([], rest)
    else do
      let (a, rest) ← item (c :: rest)
      let (as, rest) ← more item close rest.length rest
      some (a :: as, rest)

/-- The body of a string literal. -/
def literal : Parser (List Char) := fun s =>
  match skipSpaces s with
  | '"' :: rest => Literal.body rest
  | _ => none

/-- A literal whose body is made out by `decode`. -/
def stringWith {α : Type} (decode : List Char → Option α) : Parser α := fun s => do
  let (b, rest) ← literal s
  let a ← decode b
  some (a, rest)

def string : Parser String :=
  stringWith Literal.decode

/-- A name, a colon and what the name calls for. -/
def member {κ α : Type} (name : Parser κ) (value : κ → Parser α) : Parser α := fun s => do
  let (k, rest) ← name s
  match skipSpaces rest with
  | ':' :: rest => value k rest
  | _ => none

end Parser

end Outbound
