import Outbound.Failure
import Outbound.Json.Parser.Value
import Outbound.Json.Printer

namespace Outbound

/-- Where an event is sent. Any text but the empty one is a destination. -/
structure Destination where
  text : String
  ne_empty : text ≠ ""
  deriving DecidableEq

namespace Destination

def ofText (s : String) : Except EvalError Destination :=
  if h : s = "" then .error (.invalidArgument .emptyDestination) else .ok ⟨s, h⟩

instance : ToString Destination :=
  ⟨text⟩

def toJson (d : Destination) : Json :=
  .string d.text

/-- The destination that a JSON text stands for: a string, and not the empty one. -/
def parse? (s : String) : Option Destination :=
  match Parser.document Parser.string s.toList with
  | some text => (ofText text).toOption
  | none => none

/-- Destinations are ordered by their texts. -/
instance : Ord Destination :=
  ⟨fun a b => compare a.text b.text⟩

end Destination

end Outbound
