import Outbound.Event.Content
import Outbound.Event.Declaration
import Outbound.Event.TypePath

namespace Outbound

/-- Something that happened in an application. Its type may be named freely; the name of its
concrete type stays what it is. -/
structure Event where
  content : Content
  type : TypePath
  concreteName : String
  declarations : List Declaration

namespace Event

/-- The event that holds a value and is named by its concrete type. -/
def ofContent (c : Content) : Event :=
  ⟨c, ⟨c.kind.typeName⟩, c.kind.typeName, []⟩

/-- Whether the event holds a value of the given type, whatever its own type is named. -/
def is (e : Event) (k : Kind) : Bool :=
  e.content.kind = k

/-- The first declaration of the given type. -/
def declaration? (e : Event) (k : DeclarationKind) : Option Declaration :=
  e.declarations.find? fun d => d.kind = k

def declares (e : Event) (k : DeclarationKind) : Bool :=
  (e.declaration? k).isSome

end Event

/-- An event on its way to a target: the event that was raised, or one that was made from it. -/
inductive Payload where
  | raised (event : Event)
  | made (event : Event)

def Payload.event : Payload → Event
  | raised e => e
  | made e => e

end Outbound
