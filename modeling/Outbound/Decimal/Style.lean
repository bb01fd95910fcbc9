import Outbound.Decimal.Shortest

namespace Outbound

/-- How floating-point numbers are written: which of two equally near digit strings is taken, the
leading exponents that are written positionally, and whether exponents carry a plus sign. -/
structure FloatStyle where
  tie : Tie
  leastPositional : Int
  greatestPositional : Int
  plusSign : Bool

def zeros (n : Nat) : List Char := List.replicate n '0'

/-- Positional form with at least one digit on each side of the point. -/
def positional (digits : List Char) (exponent : Int) : List Char :=
  if 0 ≤ exponent then digits ++ zeros exponent.toNat ++ ['.', '0']
  else
    let places := (-exponent).toNat
    if places < digits.length then
      digits.take (digits.length - places) ++ '.' :: digits.drop (digits.length - places)
    else ['0', '.'] ++ zeros (places - digits.length) ++ digits

/-- Scientific form with one digit before the point, and no point after a single digit. -/
def scientific (plusSign : Bool) (digits : List Char) (leading : Int) : List Char :=
  let mantissa := match digits with
    | [] => []
    | [d] => [d]
    | d :: rest => d :: '.' :: rest
  let sign := if leading < 0 then ['-'] else if plusSign then ['+'] else []
  mantissa ++ 'e' :: sign ++ Nat.toDigits 10 leading.natAbs

def FloatStyle.decimal (style : FloatStyle) (d : Decimal) : List Char :=
  let digits := Nat.toDigits 10 d.coefficient
  let leading := d.exponent + digits.length - 1
  if style.leastPositional ≤ leading ∧ leading ≤ style.greatestPositional then
    positional digits d.exponent
  else scientific style.plusSign digits leading

/-- The text of a bit pattern of the given format. -/
def FloatStyle.bits (style : FloatStyle) (f : BinaryFormat) (bits : Nat) : List Char :=
  let sign := if f.isNegative bits then ['-'] else []
  match f.magnitude bits with
  | .nan => ['N', 'a', 'N']
  | .infinite => sign ++ ['i', 'n', 'f']
  | .finite d => sign ++ style.decimal (d.shortest style.tie)

def FloatStyle.float (style : FloatStyle) (x : Float) : List Char :=
  style.bits .double x.toBits.toNat

def FloatStyle.float32 (style : FloatStyle) (x : Float32) : List Char :=
  style.bits .single x.toBits.toNat

end Outbound
