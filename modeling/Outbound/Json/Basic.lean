import Outbound.Keyed

namespace Outbound

/-- Integers stay integers while they fit 64 bits; every other number is a double. -/
inductive Number where
  | int (value : Int)
  | float (value : Float)
  deriving BEq

/-- A value of the JSON data format. Members of objects are kept in increasing order of their
names. -/
inductive Json where
  | null
  | bool (value : Bool)
  | number (value : Number)
  | string (value : String)
  | array (items : List Json)
  | object (members : List (String × Json))

namespace Json

mutual

/-- Equality by content. Integers and floats are never equal, and floats compare by value. -/
def same : Json → Json → Bool
  | null, null => true
  | bool a, bool b => a == b
  | number a, number b => a == b
  | string a, string b => a == b
  | array a, array b => sameItems a b
  | object a, object b => sameMembers a b
  | _, _ => false

def sameItems : List Json → List Json → Bool
  | [], [] => true
  | a :: as, b :: bs => same a b && sameItems as bs
  | _, _ => false

def sameMembers : List (String × Json) → List (String × Json) → Bool
  | [], [] => true
  | (k, a) :: as, (l, b) :: bs => k == l && same a b && sameMembers as bs
  | _, _ => false

end

instance : BEq Json := ⟨same⟩

/-- The object with the given members; the last of equal names wins. -/
def ofMembers (members : List (String × Json)) : Json :=
  object (Keyed.ofList members).entries

def ofInt (n : Int) : Json :=
  number (.int n)

def ofNat (n : Nat) : Json :=
  ofInt n

/-- The value of a member of an object. -/
def get? (name : String) : Json → Option Json
  | object members => members.lookup name
  | _ => none

def asString? : Json → Option String
  | string s => some s
  | _ => none

def asInt? : Json → Option Int
  | number (.int n) => some n
  | _ => none

def asList? : Json → Option (List Json)
  | array items => some items
  | _ => none

end Json

end Outbound
