import Outbound.Decimal.Digits
import Outbound.Decimal.Nearest

namespace Outbound

/-- The value of a text of at least one digit. -/
def readDigits? (s : List Char) : Option Nat :=
  if s.isEmpty || !s.all Char.isDigit then none else some (digitsValue s)

/-- An exponent after its mark; a text that is absent counts as zero. -/
def readExponent? : List Char → Option Int
  | [] => some 0
  | c :: s =>
    if c = 'e' ∨ c = 'E' then
      let (negative, s) := splitSign s
      (readDigits? s).map fun n => if negative then -n else n
    else none

namespace BinaryFormat

/-- The bits nearest to an unsigned decimal, in which the digits on one side of the point may be
missing. -/
def readMagnitude? (f : BinaryFormat) (s : List Char) : Option Nat := do
  let (whole, s) := spanDigits s
  let (fraction, s) := match s with
    | '.' :: s => spanDigits s
    | s => ([], s)
  if whole.isEmpty && fraction.isEmpty then none
  else
    let exponent ← readExponent? s
    some (f.nearestDecimal (digitsValue (whole ++ fraction)) (exponent - fraction.length))

/-- The bits of a number in decimal notation, of `inf`, `infinity` or `nan` in any case, with an
optional sign. -/
def read? (f : BinaryFormat) (s : String) : Option Nat :=
  let (negative, s) := splitSign s.toList
  let magnitude :=
    match String.ofList (s.map Char.toLower) with
    | "inf" => some f.infinityBits
    | "infinity" => some f.infinityBits
    | "nan" => some (f.infinityBits + Nat.pow 2 (f.fractionBits - 1))
    | _ => f.readMagnitude? s
  magnitude.map fun bits => if negative then f.signBit + bits else bits

end BinaryFormat

end Outbound
