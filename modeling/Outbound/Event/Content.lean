import Outbound.Json.Describe

namespace Outbound

/-- The widths of the integer types; `size` is the width of an address. -/
inductive IntegerWidth where
  | w8
  | w16
  | w32
  | w64
  | w128
  | size
  deriving DecidableEq

structure IntegerType where
  signed : Bool
  width : IntegerWidth
  deriving DecidableEq

namespace IntegerType

def bits (t : IntegerType) : Nat :=
  match t.width with
  | .w8 => 8
  | .w16 => 16
  | .w32 => 32
  | .w64 => 64
  | .w128 => 128
  | .size => 64

def name (t : IntegerType) : String :=
  (if t.signed then "i" else "u") ++
    match t.width with
    | .w8 => "8"
    | .w16 => "16"
    | .w32 => "32"
    | .w64 => "64"
    | .w128 => "128"
    | .size => "size"

def least (t : IntegerType) : Int :=
  if t.signed then -(Nat.pow 2 (t.bits - 1) : Int) else 0

def greatest (t : IntegerType) : Int :=
  (Nat.pow 2 (if t.signed then t.bits - 1 else t.bits) : Int) - 1

def fits (t : IntegerType) (n : Int) : Bool :=
  t.least ≤ n && n ≤ t.greatest

end IntegerType

/-- The concrete types that events have: plain values, texts that are owned or literal, JSON
values, events read from a stream, and the types of an application. -/
inductive Kind where
  | bool
  | char
  | integer (type : IntegerType)
  | float32
  | float64
  | text
  | literal
  | json
  | inbound
  | application (typeName : String)
  deriving DecidableEq

def Kind.typeName : Kind → String
  | bool => "bool"
  | char => "char"
  | integer t => t.name
  | float32 => "f32"
  | float64 => "f64"
  | text => "alloc::string::String"
  | literal => "&str"
  | json => "serde_json::value::Value"
  | inbound => "externalize::inbound::InboundEvent"
  | application typeName => typeName

/-- What an event holds. An event of an application brings the text that describes it. -/
inductive Content where
  | bool (value : Bool)
  | char (value : Char)
  | integer (type : IntegerType) (value : Int)
  | float32 (value : Float32)
  | float64 (value : Float)
  | text (value : String)
  | literal (value : String)
  | json (value : Json)
  | inbound (typeName : String) (body : Json)
  | application (typeName : String) (value : Json) (description : String)

namespace Content

def kind : Content → Kind
  | bool _ => .bool
  | char _ => .char
  | integer t _ => .integer t
  | float32 _ => .float32
  | float64 _ => .float64
  | text _ => .text
  | literal _ => .literal
  | json _ => .json
  | inbound _ _ => .inbound
  | application typeName _ _ => .application typeName

/-- Floats are described positionally from `0.0001` up to sixteen whole digits, and otherwise
scientifically without a plus sign. -/
def floatStyle : FloatStyle := ⟨.up, -4, 15, false⟩

/-- The text that describes what an event holds. -/
def describe : Content → String
  | bool b => if b then "true" else "false"
  | char c => quotedChar c
  | integer _ n => String.ofList (Json.writeInt n)
  | float32 x => String.ofList (floatStyle.float32 x)
  | float64 x => String.ofList (floatStyle.float x)
  | text s => quoted s
  | literal s => quoted s
  | json v => v.describe
  | inbound typeName body =>
    "InboundEvent \x7b type_name: " ++ quoted typeName ++ ", body: " ++ body.describe ++ " \x7d"
  | application _ _ description => description

end Content

end Outbound
