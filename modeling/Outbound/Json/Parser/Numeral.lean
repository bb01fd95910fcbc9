import Outbound.Decimal.Digits
import Outbound.Json.Basic

namespace Outbound

/-- The parts of a written number. -/
structure Numeral where
  negative : Bool
  whole : List Char
  fraction : Option (List Char)
  exponent : Option (Bool × List Char)

namespace Numeral

/-- At least one digit, and no zero before other digits. -/
def isWhole : List Char → Bool
  | [] => false
  | ['0'] => true
  | c :: _ => c != '0'

/-- A point and at least one digit, where the text has a point. -/
def readFraction : List Char → Option (Option (List Char) × List Char)
  | '.' :: s =>
    let (digits, rest) := spanDigits s
    if digits.isEmpty then none else some (some digits, rest)
  | s => some (none, s)

/-- The mark of an exponent, an optional sign and at least one digit, where the text has the
mark. -/
def readExponent : List Char → Option (Option (Bool × List Char) × List Char)
  | [] => some (none, [])
  | c :: s =>
    if c = 'e' ∨ c = 'E' then
      let (negative, s) := splitSign s
      let (digits, rest) := spanDigits s
      if digits.isEmpty then none else some (some (negative, digits), rest)
    else some (none, c :: s)

/-- The longest written number that a text begins with. -/
def read (s : List Char) : Option (Numeral × List Char) := do
  let (negative, s) := match s with
    | '-' :: s => (true, s)
    | s => (false, s)
  let (whole, s) := spanDigits s
  if isWhole whole then
    let (fraction, s) ← readFraction s
    let (exponent, s) ← readExponent s
    some (⟨negative, whole, fraction, exponent⟩, s)
  else none

/-- The greatest integer that is kept exactly. -/
def maxCoefficient : Nat := 0xFFFFFFFFFFFFFFFF

/-- Reads digits into the coefficient while it fits 64 bits, and gives the digits that remain. -/
def accumulate (n : Nat) : List Char → Nat × List Char
  | [] => (n, [])
  | c :: rest =>
    let next := n * 10 + digitValue c
    if next ≤ maxCoefficient then accumulate next rest else (n, c :: rest)

/-- The coefficient that fits 64 bits, and the power of ten that it is to be taken times, without
the written exponent. Whole digits that do not fit count as zeros, fractional ones not at all. -/
def coefficient (n : Numeral) : Nat × Int :=
  let (c, dropped) := accumulate 0 n.whole
  let fraction := n.fraction.getD []
  let (c, ignored) := accumulate c fraction
  (c, (dropped.length : Int) - (fraction.length - ignored.length))

/-- Divides by a power of ten, in steps that a double can hold. -/
def divideByPower (x : Float) (e : Nat) : Float :=
  if e ≤ 308 then x / Float.ofScientific 1 false e
  else if x == 0 then x
  else divideByPower (x / Float.ofScientific 1 false 308) (e - 308)
termination_by e
decreasing_by omega

/-- A coefficient of 64 bits times a power of ten, unless that is beyond every double. -/
def scale (coefficient : Nat) (exponent : Int) : Option Float :=
  let x := (UInt64.ofNat coefficient).toFloat
  if exponent < 0 then some (divideByPower x exponent.natAbs)
  else if exponent ≤ 308 then
    let y := x * Float.ofScientific 1 false exponent.natAbs
    if y.isInf then none else some y
  else if x == 0 then some x
  else none

/-- The greatest magnitude of a written exponent that is taken as it stands. -/
def maxExponent : Nat := 0x7FFFFFFF

def magnitude (n : Numeral) : Option Float :=
  let (c, shift) := n.coefficient
  match n.exponent with
  | none => scale c shift
  | some (negative, digits) =>
    let e := digitsValue digits
    if maxExponent < e then
      if c = 0 ∨ negative then some 0 else none
    else
      scale c (if negative then shift - e else shift + e)

def asFloat (n : Numeral) : Option Number :=
  n.magnitude.map fun x => .float (if n.negative then -x else x)

/-- The number that is written. Numbers without fraction and exponent are integers while they fit
64 bits; negative zero is a float. -/
def value (n : Numeral) : Option Number :=
  match n.fraction, n.exponent with
  | none, none =>
    let v := digitsValue n.whole
    if n.negative then
      if 0 < v ∧ v ≤ 0x8000000000000000 then some (.int (-v)) else n.asFloat
    else if v ≤ maxCoefficient then some (.int v)
    else n.asFloat
  | _, _ => n.asFloat

end Numeral

end Outbound
