import Outbound.Delivery.Dispatcher
import Outbound.Settings.Basic
import Outbound.Stream.Event

namespace Outbound

/-- Why a stream of events could not be followed to its end. A malformed line is known by its
number alone; where on the line it goes wrong is left out. -/
inductive StreamError where
  | settings (error : EvalError)
  | notText
  | malformed (line : Nat)
  | delivery (error : DeliveryError)
  deriving DecidableEq

def StreamError.message : StreamError → String
  | settings error => error.message
  | notText => "stream did not contain valid UTF-8"
  | malformed line => "malformed event on line " ++ Nat.repr line
  | delivery error => error.message

/-- How many events were read, and how many of them were delivered. -/
structure Tally where
  events : Nat
  delivered : Nat
  deriving DecidableEq

namespace Stream

/-- The lines of a stream without their endings. A line ends with a line feed, and a carriage
return just before it belongs to the ending. -/
def lines : List UInt8 → List (List UInt8)
  | [] => []
  | 13 :: 10 :: rest => [] :: lines rest
  | 10 :: rest => [] :: lines rest
  | b :: rest =>
    match lines rest with
    | [] => [[b]]
    | line :: more => (b :: line) :: more

/-- The event on a line, or nothing where the line is blank. -/
def readLine (number : Nat) (line : List UInt8) : Except StreamError (Option StreamEvent) :=
  match String.fromUTF8? ⟨line.toArray⟩ with
  | none => .error .notText
  | some s =>
    if isBlank s then .ok none
    else
      match StreamEvent.parse? s with
      | some e => .ok (some e)
      | none => .error (.malformed number)

variable {σ : Type}

/-- Dispatches the events on the given lines, the first of which has the given number, and adds
to a tally. The first error ends the stream. -/
def dispatchLines (d : Dispatcher σ) (log : LogFilter) :
    Nat → List (List UInt8) → σ → Tally → Traced (σ × Except StreamError Tally)
  | _, [], state, tally => pure (state, .ok tally)
  | number, line :: rest, state, tally =>
    match readLine number line with
    | .error e => pure (state, .error e)
    | .ok none => dispatchLines d log (number + 1) rest state tally
    | .ok (some event) => do
      match ← d.dispatch log state (.raised event.toEvent) with
      | (state, .error e) => pure (state, .error (.delivery e))
      | (state, .ok delivered) =>
        dispatchLines d log (number + 1) rest state
          ⟨tally.events + 1, tally.delivered + if delivered then 1 else 0⟩

/-- Dispatches a stream of events by the given settings, and writes destinations and bodies as
JSON lines. -/
def run {ω : Type} (settings : Settings) (log : LogFilter) (w : Writer ω) (state : ω)
    (input : List UInt8) : Traced (ω × Except StreamError Tally) :=
  match settings.policy with
  | .error e => pure (state, .error (.settings e))
  | .ok policy =>
    dispatchLines ⟨policy, Sink.jsonLines Encoder.body w⟩ log 1 (lines input) state ⟨0, 0⟩

end Stream

end Outbound
