import Outbound.Route.Naming

namespace Outbound

/-- Decides which events leave an application, in which form, and where to. -/
structure Policy where
  accepts : Event → Traced Bool
  transform : Payload → Eval Payload
  route : Payload → Eval String

namespace Policy

/-- The destination that the route names. An empty name is refused. -/
def destination (c : Policy) (p : Payload) : Eval Destination := do
  let name ← c.route p
  ExceptT.mk (pure (Destination.ofText name))

/-- Routes an event as it is, by a naming that cannot fail. -/
def named (n : Naming) : Payload → Eval String := fun p =>
  ExceptT.lift (n p.event)

/-- Leaves events as they are, and routes them by declaration or full name. -/
def ofFilter (accepts : Event → Traced Bool) : Policy where
  accepts := accepts
  transform p := pure p
  route := named (Naming.declaredOrFull .standard)

end Policy

end Outbound
