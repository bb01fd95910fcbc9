import Outbound.Event.Reader
import Outbound.Log.Record
import Outbound.Pattern.Group
import Outbound.Text.Blank
import Outbound.Text.Bytes
import Outbound.Text.CharClass

namespace Outbound

/-- A wish of the reader of the log: the least level of the records of one part of the program,
perhaps only inside a span or for records with certain fields. Level zero asks for nothing. -/
structure LogDirective where
  verbosity : Nat
  part : Option String
  span : Option String
  fields : List String
  /-- whether a value is asked for in one of the fields -/
  hasValue : Bool

namespace LogDirective

/-- The level that a name or a digit stands for. -/
def level? (s : String) : Option Nat :=
  match (IntegerType.mk false .size).read? s with
  | some n => if n ≤ 5 then some n.toNat else named
  | none => named
where
  named : Option Nat :=
    match String.ofList (s.toList.map Char.toLower) with
    | "off" => some 0
    | "error" => some 1
    | "warn" => some 2
    | "info" => some 3
    | "debug" => some 4
    | "trace" => some 5
    | _ => none

/-- Why a text is no directive. A piece of it is torn when it begins or ends inside a character. -/
inductive Fault where
  | malformed
  | torn
  deriving DecidableEq

/-- What is being read, and at which byte of the text it began. -/
inductive Stage where
  | start
  | levelOrPart (start : Nat)
  | span (start : Nat)
  | field (start : Nat)
  | fields
  | part
  | level (start : Nat)

/-- The piece of a text from one byte up to another, or up to the end. -/
def piece (s : List Char) (first : Nat) (last : Option Nat) : Except Fault String :=
  let cut := (dropBytes first s).bind fun rest =>
    match last with
    | some last => takeBytes (last - first) rest
    | none => some rest
  match cut with
  | some p => .ok (String.ofList p)
  | none => .error .torn

/-- Whether a text can be asked for as the value of a field: a number, or a pattern. -/
def isValue (s : List Char) : Bool :=
  (BinaryFormat.double.read? (String.ofList s)).isSome || Pattern.isWellFormed s

/-- Adds a field. Its name ends before an equals sign if it has a value, which ends before the
next one. -/
def addField (d : LogDirective) (s : String) : Except Fault LogDirective :=
  if s.isEmpty then .error .malformed
  else
    let name := String.ofList (s.toList.takeWhile (· != '='))
    match s.toList.dropWhile (· != '=') with
    | [] => .ok { d with fields := d.fields ++ [name] }
    | _ :: rest =>
      if isValue (rest.takeWhile (· != '=')) then
        .ok { d with fields := d.fields ++ [name], hasValue := true }
      else .error .malformed

/-- Reads one more character, which begins at the given byte. -/
def advance (s : List Char) (d : LogDirective) (stage : Stage) (i : Nat) (c : Char) :
    Except Fault (LogDirective × Stage) :=
  match stage with
  | .start =>
    if c = '[' then .ok (d, .span (i + 1))
    else if isAlphanumeric c || c == '-' || c == ':' || c == '_' then .ok (d, .levelOrPart i)
    else .error .malformed
  | .levelOrPart start =>
    if c = '=' then do return ({ d with part := some (← piece s start (some i)) }, .level (i + 1))
    else if c = '[' then do
      return ({ d with part := some (← piece s start (some i)) }, .span (i + 1))
    else .ok (d, stage)
  | .part => if c = '=' then .ok (d, .level (i + 1)) else .error .malformed
  | .span start =>
    if c = ']' then do return ({ d with span := some (← piece s start (some i)) }, .part)
    else if c = '\x7b' then do
      let name ← piece s start (some i)
      return ({ d with span := if name.isEmpty then none else some name }, .field (i + 1))
    else .ok (d, stage)
  | .field start =>
    if c = '\x7d' then do return (← d.addField (← piece s start (some i)), .fields)
    else .ok (d, stage)
  | .fields => if c = ']' then .ok (d, .part) else .error .malformed
  | .level _ => .ok (d, stage)

/-- Reads the characters from the given byte on. -/
def advanceAll (s : List Char) (d : LogDirective) (stage : Stage) :
    Nat → List Char → Except Fault (LogDirective × Stage)
  | _, [] => .ok (d, stage)
  | i, c :: rest => do
    let (d, stage) ← advance s d stage i c
    advanceAll s d stage (i + c.utf8Size) rest

/-- The directive that a text stands for. A single word is a level if it can be one, and
otherwise names a part of the program. Bytes are counted from the first character that is not
white space, and pieces are cut from the whole text: white space in front shifts every piece, and
tears those that then begin or end inside a character. -/
def parse (s : List Char) : Except Fault LogDirective := do
  let trimmed := ((s.dropWhile isWhiteSpace).reverse.dropWhile isWhiteSpace).reverse
  let (d, stage) ← advanceAll s ⟨5, none, none, [], false⟩ .start 0 trimmed
  match stage with
  | .levelOrPart start =>
    let word ← piece s start none
    match level? word with
    | some level => return { d with verbosity := level }
    | none => return { d with part := some word }
  | .level start =>
    let word ← piece s start none
    if word.isEmpty then return d
    else
      match level? word with
      | some level => return { d with verbosity := level }
      | none => throw .malformed
  | .part => return d
  | _ => throw .malformed

/-- The directives that can be read. Malformed ones are passed over, a torn one spoils them all. -/
def parseAll : List (List Char) → Option (List LogDirective)
  | [] => some []
  | s :: rest =>
    match parse s with
    | .ok d => (parseAll rest).map (d :: ·)
    | .error .malformed => parseAll rest
    | .error .torn => none

/-- Spans and values are known only while the program runs; a directive that asks for neither can
be decided for each record by itself. -/
def isDecidable (d : LogDirective) : Bool :=
  d.span.isNone && !d.hasValue

/-- The order in which directives are consulted: longer names first, then more fields. -/
def order (a b : LogDirective) : Ordering :=
  ((compare (a.part.map String.utf8ByteSize) (b.part.map String.utf8ByteSize)).then <|
    (compare a.fields.length b.fields.length).then <|
      (compare a.part b.part).then (compare a.fields b.fields)).swap

/-- Adds a directive in order; it takes the place of an equal one. -/
def insert (d : LogDirective) : List LogDirective → List LogDirective
  | [] => [d]
  | e :: rest =>
    match order d e with
    | .lt => d :: e :: rest
    | .eq => d :: rest
    | .gt => e :: insert d rest

def concernsPart (d : LogDirective) (origin : String) : Bool :=
  match d.part with
  | some part => part.toList.isPrefixOf origin.toList
  | none => true

def concerns (d : LogDirective) (r : LogRecord) : Bool :=
  d.concernsPart r.origin &&
    d.fields.all fun name => name == "message" || r.fields.any fun f => f.1 == name

end LogDirective

namespace LogFilter

/-- The first directive that is concerned decides. -/
def ofDirectives (directives : List LogDirective) : LogFilter where
  hints level origin :=
    match directives.find? fun d => d.concernsPart origin with
    | some d => level.verbosity ≤ d.verbosity
    | none => false
  keeps r :=
    match directives.find? fun d => d.concerns r with
    | some d => r.level.verbosity ≤ d.verbosity
    | none => false

/-- The texts between commas. -/
def splitCommas : List Char → List (List Char)
  | [] => [[]]
  | ',' :: rest => [] :: splitCommas rest
  | c :: rest =>
    match splitCommas rest with
    | [] => [[c]]
    | word :: more => (c :: word) :: more

/-- The filter of a list of directives with commas between them, unless one of them is torn.
Whatever it says, all parts of the program that it does not name are read at level `info`. -/
def ofText? (s : String) : Option LogFilter := do
  let wishes ← LogDirective.parseAll (splitCommas s.toList)
  let usual : LogDirective := ⟨Level.verbosity .info, none, none, [], false⟩
  return ofDirectives <|
    (wishes.filter LogDirective.isDecidable ++ [usual]).foldl
      (fun ds d => LogDirective.insert d ds) []

end LogFilter

end Outbound
