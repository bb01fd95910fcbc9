import Outbound.Policy.Basic

namespace Outbound

namespace Policy

/-- Replaces the transformation. -/
def replace (c : Policy) (f : Payload → Traced Payload) : Policy :=
  { c with transform := fun p => ExceptT.lift (f p) }

/-- Replaces the transformation by one that may fail. -/
def replaceOrFail (c : Policy) (f : Payload → Traced (Except Failure Payload)) : Policy :=
  { c with
    transform := fun p => ExceptT.mk do
      match ← f p with
      | .ok q => pure (.ok q)
      | .error source => pure (.error (.transform p.event.type source)) }

/-- Applies a function to a payload whose concrete type is the given one. -/
def convertPayload (k : Kind) (f : Event → Traced Event) (p : Payload) : Traced Payload :=
  if p.event.is k then do return .made (← f p.event) else pure p

/-- Converts payloads of one concrete type before the transformation so far sees them. -/
def convert (c : Policy) (k : Kind) (f : Event → Traced Event) : Policy :=
  { c with transform := fun p => do c.transform (← convertPayload k f p) }

/-- From now on the route so far sees events as the transformation so far makes them. -/
def routeTransformed (c : Policy) : Policy :=
  { c with route := fun p => do c.route (← c.transform p) }

/-- Routes by something that is taken from the event. -/
def routeByFeature {α : Type} (c : Policy) (extract : Event → Traced α)
    (name : α → Traced String) : Policy :=
  { c with route := named fun e => do name (← extract e) }

def routeByType (c : Policy) (name : TypePath → Traced String) : Policy :=
  { c with route := named fun e => name e.type }

def routeBy (c : Policy) (n : Naming) : Policy :=
  { c with route := named n }

/-- Routes by a function that may fail. -/
def routeByOrFail (c : Policy) (f : Event → Traced (Except Failure String)) : Policy :=
  { c with
    route := fun p => ExceptT.mk do
      match ← f p.event with
      | .ok name => pure (.ok name)
      | .error source => pure (.error (.route p.event.type source)) }

/-- Routes by a partial naming of events as they are, and by the route so far where that has no
answer. -/
def routeWhere (c : Policy) (n : PartialNaming) : Policy :=
  { c with
    route := fun p => do
      match ← ExceptT.lift (n p.event) with
      | some name => pure name
      | none => c.route p }

def routeWhereType (c : Policy) (name : TypePath → Traced (Option String)) : Policy :=
  c.routeWhere fun e => name e.type

def routeByFullName (c : Policy) : Policy :=
  c.routeBy Naming.byFullName

/-- The ways to refine a policy any number of times. -/
inductive Step where
  | replace (f : Payload → Traced Payload)
  | replaceOrFail (f : Payload → Traced (Except Failure Payload))
  | convert (kind : Kind) (f : Event → Traced Event)
  | routeTransformed
  | routeByFeature (name : Event → Traced String)
  | routeByType (name : TypePath → Traced String)

/-- The ways to settle the route for good. -/
inductive Finish where
  | asIs
  | routeBy (n : Naming)
  | routeByOrFail (f : Event → Traced (Except Failure String))
  | routeWhere (n : PartialNaming)
  | routeWhereType (name : TypePath → Traced (Option String))
  | routeByFullName

def refine (c : Policy) : Step → Policy
  | .replace f => c.replace f
  | .replaceOrFail f => c.replaceOrFail f
  | .convert kind f => c.convert kind f
  | .routeTransformed => c.routeTransformed
  | .routeByFeature name => c.routeByFeature name pure
  | .routeByType name => c.routeByType name

def finish (c : Policy) : Finish → Policy
  | .asIs => c
  | .routeBy n => c.routeBy n
  | .routeByOrFail f => c.routeByOrFail f
  | .routeWhere n => c.routeWhere n
  | .routeWhereType name => c.routeWhereType name
  | .routeByFullName => c.routeByFullName

/-- Refines a policy step by step and settles its route. -/
def develop (c : Policy) (steps : List Step) (last : Finish) : Policy :=
  (steps.foldl refine c).finish last

end Policy

end Outbound
