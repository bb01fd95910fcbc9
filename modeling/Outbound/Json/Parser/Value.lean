import Outbound.Json.Parser.Basic

namespace Outbound

/-- What is made of the parts of a text while it is read. -/
structure Reading (κ ν : Type) where
  name : List Char → Option κ
  string : List Char → Option ν
  number : Numeral → Option ν
  null : ν
  bool : Bool → ν
  array : List ν → ν
  object : List (κ × ν) → ν

/-- Keeps everything, and accepts only what has a value. -/
def Reading.full : Reading String Json where
  name := Literal.decode
  string b := (Literal.decode b).map Json.string
  number n := n.value.map Json.number
  null := .null
  bool := .bool
  array := .array
  object := Json.ofMembers

/-- Keeps nothing, and asks only for the form: surrogates may stand alone and numbers may have
any size. -/
def Reading.skim : Reading Unit Unit where
  name b := (Literal.pieces b).map fun _ => ()
  string b := (Literal.pieces b).map fun _ => ()
  number _ := some ()
  null := ()
  bool _ := ()
  array _ := ()
  object _ := ()

namespace Parser

variable {κ ν : Type}

/-- A value that is neither an array nor an object. -/
def scalar (r : Reading κ ν) : Parser ν := fun s =>
  match s with
  | 'n' :: 'u' :: 'l' :: 'l' :: rest => some (r.null, rest)
  | 't' :: 'r' :: 'u' :: 'e' :: rest => some (r.bool true, rest)
  | 'f' :: 'a' :: 'l' :: 's' :: 'e' :: rest => some (r.bool false, rest)
  | '"' :: rest => do
    let (b, rest) ← Literal.body rest
    let v ← r.string b
    some (v, rest)
  | s => do
    let (n, rest) ← Numeral.read s
    let v ← r.number n
    some (v, rest)

/-- A value in which arrays and objects are nested at most `depth` deep. -/
def value (r : Reading κ ν) : Nat → Parser ν
  | 0 => fun s => scalar r (skipSpaces s)
  | depth + 1 => fun s =>
    match skipSpaces s with
    | '[' :: rest => do
      let (items, rest) ← sequence (value r depth) ']' rest
      some (r.array items, rest)
    | '\x7b' :: rest => do
      let (members, rest) ←
        sequence
          (member (stringWith r.name) fun k s => do
            let (v, rest) ← value r depth s
            some ((k, v), rest))
          '\x7d' rest
      some (r.object members, rest)
    | rest => scalar r rest

/-- Any well-formed value, however deeply nested. -/
def skip : Parser Unit := fun s =>
  value Reading.skim s.length s

end Parser

/-- How deeply arrays and objects of a value may be nested. -/
def Json.maxDepth : Nat := 127

/-- The value of a JSON text. -/
def Json.parse? (s : String) : Option Json :=
  Parser.document (Parser.value Reading.full Json.maxDepth) s.toList

end Outbound
