import Outbound.Json.Parser.Value

namespace Outbound

/-- A part of a record: its name, and the reader of what it holds. -/
structure RecordField (μ : Type) where
  name : String
  read : Parser μ

namespace RecordField

variable {μ : Type}

/-- A member of a record in object form. Members with unknown names are skipped. -/
def readMember (fields : List (RecordField μ)) : Parser (Option μ) :=
  Parser.member Parser.string fun name s =>
    match fields.find? (fun f => f.name == name) with
    | some f => (f.read s).map fun (m, rest) => (some m, rest)
    | none => (Parser.skip s).map fun (_, rest) => (none, rest)

/-- What follows a part of a record in array form. -/
def readMore : List (RecordField μ) → Parser (List μ)
  | [], s =>
    match Parser.skipSpaces s with
    | ']' :: rest => some ([], rest)
    | _ => none
  | f :: fields, s =>
    match Parser.skipSpaces s with
    | ']' :: rest => some ([], rest)
    | ',' :: rest => do
      let (m, rest) ← f.read rest
      let (ms, rest) ← readMore fields rest
      some (m :: ms, rest)
    | _ => none

/-- The parts of a record in array form, in the order of its fields. Parts at the end may be
missing. -/
def readItems : List (RecordField μ) → Parser (List μ)
  | [], s => readMore [] s
  | f :: fields, s =>
    match Parser.skipSpaces s with
    | ']' :: rest => some ([], rest)
    | s => do
      let (m, rest) ← f.read s
      let (ms, rest) ← readMore fields rest
      some (m :: ms, rest)

/-- The parts of a record that is written as an object or as an array. -/
def readRecord (fields : List (RecordField μ)) : Parser (List μ) := fun s =>
  match Parser.skipSpaces s with
  | '\x7b' :: rest =>
    (Parser.sequence (readMember fields) '\x7d' rest).map fun (ms, rest) => (ms.filterMap id, rest)
  | '[' :: rest => readItems fields rest
  | _ => none

/-- The only one of the parts that `pick` accepts, if there is one. Two of them are refused. -/
def atMostOne {α : Type} (pick : μ → Option α) (parts : List μ) : Option (Option α) :=
  match parts.filterMap pick with
  | [] => some none
  | [a] => some (some a)
  | _ => none

end RecordField

end Outbound
