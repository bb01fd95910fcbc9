import Outbound.Traced

namespace Outbound

/-- Takes payloads for destinations. The state is what the sink holds. -/
structure Sink (σ : Type) where
  accept : σ → Destination → Payload → Traced (σ × Except Failure Unit)

/-- Puts an event into JSON form. -/
abbrev Encoder := Event → Except Failure Json

namespace Encoder

/-- JSON values and texts stand for themselves, anything else for the text that describes it. -/
def plain : Encoder := fun e =>
  match e.content with
  | .json v => .ok v
  | .text s => .ok (.string s)
  | .literal s => .ok (.string s)
  | other => .ok (.string other.describe)

/-- An event from a stream stands for its body. -/
def body : Encoder := fun e =>
  match e.content with
  | .inbound _ body => .ok body
  | _ => plain e

end Encoder

/-- Takes text piece by piece. -/
structure Writer (ω : Type) where
  write : ω → String → ω × Except Failure Unit
  flush : ω → ω × Except Failure Unit

/-- Keeps all text, and never fails. -/
def Writer.memory : Writer String :=
  ⟨fun written s => (written ++ s, .ok ()), fun written => (written, .ok ())⟩

/-- Writes a line and flushes. -/
def Writer.writeLine {ω : Type} (w : Writer ω) (state : ω) (line : String) :
    ω × Except Failure Unit :=
  match w.write state line with
  | (state, .error e) => (state, .error e)
  | (state, .ok ()) =>
    match w.write state "\n" with
    | (state, .error e) => (state, .error e)
    | (state, .ok ()) => w.flush state

namespace Sink

/-- Keeps what it is given, in order. -/
def recording : Sink (List (Destination × Payload)) :=
  ⟨fun records d p => pure (records ++ [(d, p)], .ok ())⟩

/-- Hands everything to a function. -/
def ofFunction (f : Destination → Payload → Traced (Except Failure Unit)) : Sink Unit :=
  ⟨fun _ d p => do return ((), ← f d p)⟩

/-- The object that stands for a payload and its destination. -/
def jsonRecord (d : Destination) (payload : Json) : Json :=
  .object [("payload", payload), ("target", d.toJson)]

/-- Writes one JSON object to a line for each payload. Nothing is written of a payload that has no
JSON form. -/
def jsonLines {ω : Type} (encode : Encoder) (w : Writer ω) : Sink ω :=
  ⟨fun state d p =>
    match encode p.event with
    | .error e => pure (state, .error e)
    | .ok payload => pure (w.writeLine state (jsonRecord d payload).render)⟩

end Sink

end Outbound
