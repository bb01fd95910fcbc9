import Outbound.Event.Path

namespace Outbound

/-- The type of an event, known by its full name. -/
structure TypePath where
  name : String
  deriving DecidableEq

namespace TypePath

/-- The namespace that the type stands in; empty for a type at the top. -/
def enclosing (t : TypePath) : String :=
  String.ofList (Path.enclosing t.name.toList)

/-- The last segment of the name, generic arguments included. -/
def leaf (t : TypePath) : String :=
  String.ofList (Path.leaf t.name.toList)

/-- Whether the type stands in a namespace or in one below it. -/
def isWithin (t : TypePath) (root : String) : Bool :=
  Path.isWithin t.name.toList root.toList

/-- The name below a namespace that the type stands in. -/
def localPart (t : TypePath) (root : String) : Option String :=
  (Path.localPart t.name.toList root.toList).map String.ofList

/-- Types are ordered by their names. -/
instance : Ord TypePath :=
  ⟨fun a b => compare a.name b.name⟩

end TypePath

/-- The length of a namespace without the separators at its end. -/
def trimmedLength (root : String) : Nat :=
  (String.ofList (Path.trim root.toList)).utf8ByteSize

end Outbound
