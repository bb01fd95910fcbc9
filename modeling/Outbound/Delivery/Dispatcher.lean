import Outbound.Delivery.Sink
import Outbound.Policy.Basic

namespace Outbound

/-- Why an accepted event was not delivered. -/
inductive DeliveryError where
  | unevaluated (error : EvalError)
  | refused (destination : Destination) (source : Failure)
  deriving DecidableEq

def DeliveryError.message : DeliveryError → String
  | unevaluated error => error.message
  | refused destination _ => "failed to externalize event to " ++ destination.text

/-- A policy together with the sink that its events go to. -/
structure Dispatcher (σ : Type) where
  policy : Policy
  sink : Sink σ

namespace Dispatcher

/-- The part of the program that the log records name. -/
def origin : String := "externalize_dispatch::externalizer"

/-- The record that announces a payload. It shows the payload only where the log is read in full
detail. -/
def announcement (log : LogFilter) (type : TypePath) (destination : Destination)
    (payload : Payload) : LogRecord :=
  let fields := [("event_type", type.name), ("routing_target", destination.text)]
  if log.hints .trace origin then
    ⟨.trace, origin, "Externalizing event",
      fields ++ [("payload", payload.event.content.describe)]⟩
  else ⟨.debug, origin, "Externalizing event", fields⟩

/-- Writes a record where the log is read that far. -/
def report (log : LogFilter) (r : LogRecord) : Traced Unit :=
  if log.keeps r then Traced.mark (.logged r) else pure ()

/-- Destination and transformed payload of an event, the destination first. -/
def evaluate (c : Policy) (p : Payload) : Eval (Destination × Payload) := do
  let destination ← c.destination p
  let transformed ← c.transform p
  return (destination, transformed)

variable {σ : Type}

/-- Delivers an event if the policy accepts it, and tells whether it did. -/
def dispatch (d : Dispatcher σ) (log : LogFilter) (state : σ) (p : Payload) :
    Traced (σ × Except DeliveryError Bool) := do
  if ← d.policy.accepts p.event then
    match ← (evaluate d.policy p).run with
    | .error e => return (state, .error (.unevaluated e))
    | .ok (destination, transformed) =>
      report log (announcement log p.event.type destination transformed)
      Traced.mark (.delivered destination transformed)
      match ← d.sink.accept state destination transformed with
      | (state, .ok ()) => return (state, .ok true)
      | (state, .error source) => return (state, .error (.refused destination source))
  else return (state, .ok false)

end Dispatcher

end Outbound
