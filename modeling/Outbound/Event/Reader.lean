import Outbound.Decimal.Reader
import Outbound.Event.Content

namespace Outbound

namespace IntegerType

/-- The integer that a text of digits stands for. A plus sign is always allowed, a minus sign
only where the type is signed. -/
def read? (t : IntegerType) (s : String) : Option Int := do
  let n ← match s.toList with
    | '+' :: digits => (readDigits? digits).map Int.ofNat
    | '-' :: digits => if t.signed then (readDigits? digits).map fun n => -(n : Int) else none
    | digits => (readDigits? digits).map Int.ofNat
  if t.fits n then some n else none

end IntegerType

/-- The value of a plain type that a text stands for. -/
def Kind.read? (k : Kind) (s : String) : Option Content :=
  match k with
  | .bool =>
    match s with
    | "true" => some (.bool true)
    | "false" => some (.bool false)
    | _ => none
  | .char =>
    match s.toList with
    | [c] => some (.char c)
    | _ => none
  | .integer t => (t.read? s).map (.integer t)
  | .float32 =>
    (BinaryFormat.single.read? s).map fun bits => .float32 (Float32.ofBits (UInt32.ofNat bits))
  | .float64 =>
    (BinaryFormat.double.read? s).map fun bits => .float64 (Float.ofBits (UInt64.ofNat bits))
  | .text => some (.text s)
  | .literal => some (.literal s)
  | _ => none

/-- The value of a plain type that stands for nothing in particular. -/
def Kind.initial? (k : Kind) : Option Content :=
  match k with
  | .bool => some (.bool false)
  | .char => some (.char '\x00')
  | .integer t => some (.integer t 0)
  | .float32 => some (.float32 0)
  | .float64 => some (.float64 0)
  | .text => some (.text "")
  | .literal => some (.literal "")
  | _ => none

end Outbound
