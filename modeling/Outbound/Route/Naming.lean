import Outbound.Route.Registry

namespace Outbound

/-- A way to name the destination of an event. -/
abbrev Naming := Event → Traced String

/-- A way to name the destinations of some events. -/
abbrev PartialNaming := Event → Traced (Option String)

namespace PartialNaming

def declared (r : Registry) : PartialNaming :=
  r.routeOf

/-- The last of the namespaces that are longest without the separators at their ends. -/
def longest : List String → Option String
  | [] => none
  | root :: rest =>
    match longest rest with
    | some other => if trimmedLength root ≤ trimmedLength other then some other else some root
    | none => some root

/-- The name of a type below the longest of the namespaces that it stands in. -/
def localPart (namespaces : List String) (t : TypePath) : Option String :=
  (longest (namespaces.filter t.isWithin)).bind t.localPart

def byLocalPart (namespaces : List String) : PartialNaming := fun e =>
  pure (localPart namespaces e.type)

/-- The second naming is tried where the first has no answer. -/
def orElse (first second : PartialNaming) : PartialNaming := fun e => do
  match ← first e with
  | some route => pure (some route)
  | none => second e

/-- The second naming answers where the first has no answer. -/
def otherwise (first : PartialNaming) (second : Naming) : Naming := fun e => do
  match ← first e with
  | some route => pure route
  | none => second e

end PartialNaming

namespace Naming

/-- The name of the event's type, or of its concrete type where that is blank. -/
def fullName (e : Event) : String :=
  if isBlank e.type.name then e.concreteName else e.type.name

def byFullName : Naming := fun e =>
  pure (fullName e)

/-- The declared route, else the full name. -/
def declaredOrFull (r : Registry) : Naming :=
  (PartialNaming.declared r).otherwise byFullName

/-- The declared route, else the local part of the name, else the full name. -/
def declaredOrLocal (namespaces : List String) (r : Registry) : Naming :=
  ((PartialNaming.declared r).orElse (PartialNaming.byLocalPart namespaces)).otherwise byFullName

end Naming

end Outbound
