import Outbound.Event.Basic
import Outbound.Json.Record

namespace Outbound

/-- An event as it is read from a stream: the name of its type, and a body. -/
structure StreamEvent where
  typeName : String
  body : Json

namespace StreamEvent

/-- What a member of a written event holds. -/
inductive Part where
  | type (name : String)
  | body (value : Json)

def Part.type? : Part → Option String
  | type name => some name
  | body _ => none

def Part.body? : Part → Option Json
  | type _ => none
  | body value => some value

/-- The members of a written event. The event itself counts as one level of nesting. -/
def fields : List (RecordField Part) :=
  [⟨"type", fun s => (Parser.string s).map fun (name, rest) => (.type name, rest)⟩,
    ⟨"body", fun s =>
      (Parser.value .full (Json.maxDepth - 1) s).map fun (v, rest) => (.body v, rest)⟩]

/-- The event that a JSON text stands for. The type is required, the body may be left out. -/
def parse? (s : String) : Option StreamEvent := do
  let parts ← Parser.document (RecordField.readRecord fields) s.toList
  let typeName ← RecordField.atMostOne Part.type? parts
  let body ← RecordField.atMostOne Part.body? parts
  return ⟨← typeName, body.getD .null⟩

/-- The event is named by what was read. -/
def toEvent (e : StreamEvent) : Event :=
  { Event.ofContent (.inbound e.typeName e.body) with type := ⟨e.typeName⟩ }

end StreamEvent

end Outbound
