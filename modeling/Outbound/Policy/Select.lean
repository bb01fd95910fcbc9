import Outbound.Policy.Refine

namespace Outbound

/-- A namespace that may be selected by: any but a blank one. -/
def requireNamespace (root : String) : Except EvalError String :=
  if isBlank root then .error (.invalidArgument .blankNamespace) else .ok root

namespace Policy

/-- Accepts the events that stand in a namespace. -/
def within (root : String) : Except EvalError Policy := do
  let root ← requireNamespace root
  return ofFilter fun e => pure (e.type.isWithin root)

/-- Accepts the events that stand beside the given type or below. -/
def beside (t : TypePath) : Except EvalError Policy :=
  within t.enclosing

/-- Accepts the events that stand in one of the namespaces and that the filter accepts. The filter
sees no other events. -/
def withinAny (roots : List String) (filter : Event → Traced Bool) : Except EvalError Policy := do
  let roots ← roots.mapM requireNamespace
  if roots.isEmpty then throw (.invalidArgument .noBaseNamespaces)
  else
    return ofFilter fun e =>
      if roots.any e.type.isWithin then filter e else pure false

/-- Accepts the events that carry a declaration of the given type. -/
def declaring (k : DeclarationKind) : Policy :=
  ofFilter fun e => pure (e.declares k)

/-- Accepts the events of one concrete type. -/
def ofKind (k : Kind) : Policy :=
  ofFilter fun e => pure (e.is k)

def ofType (filter : TypePath → Traced Bool) : Policy :=
  ofFilter fun e => filter e.type

/-- The failure of an event without the declaration that it is routed by. -/
def missingDeclaration (k : DeclarationKind) : Failure :=
  .ofMessage ("event type carries no " ++ k.typeName ++ " declaration")

/-- Accepts the events that carry a declaration of the given type, and routes them by the event
and the first such declaration. -/
def byDeclarationOf (k : DeclarationKind) (name : Event → Declaration → Traced String) : Policy :=
  (declaring k).routeByOrFail fun e =>
    match e.declaration? k with
    | some d => do return .ok (← name e d)
    | none => pure (.error (missingDeclaration k))

/-- Routes by the first declaration of the given type alone. -/
def byDeclaration (k : DeclarationKind) (name : Declaration → Traced String) : Policy :=
  byDeclarationOf k fun _ d => name d

/-- Accepts the events that stand in one of the namespaces and that the registry covers. They are
routed as declared, else by the local part of their name, and stay as they are. -/
def preset (namespaces : List String) (r : Registry) : Except EvalError Policy :=
  if namespaces.isEmpty then .error (.invalidArgument .noNamespaces)
  else do
    let c ← withinAny namespaces r.covers
    return c.routeBy (Naming.declaredOrLocal namespaces r)

end Policy

end Outbound
