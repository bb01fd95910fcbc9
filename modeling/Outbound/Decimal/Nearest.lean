import Outbound.Decimal.Binary

namespace Outbound

/-- The whole number nearest to a quotient; a half goes to the even neighbour. -/
def roundHalfEven (num den : Nat) : Nat :=
  let q := num / den
  let twice := 2 * (num % den)
  if twice < den then q
  else if den < twice then q + 1
  else q + q % 2

/-- The greatest `e` for which `2 ^ e` is not above a positive quotient. -/
def binaryExponent (num den : Nat) : Int :=
  let e : Int := (Nat.log2 num : Int) - Nat.log2 den
  if den * Nat.pow 2 e.toNat ≤ num * Nat.pow 2 (-e).toNat then e else e - 1

/-- The bits of the value nearest to a quotient, with ties to the even significand. Quotients
beyond the greatest value give infinity. -/
def BinaryFormat.nearest (f : BinaryFormat) (num den : Nat) : Nat :=
  if num = 0 then 0
  else
    let q := max f.leastExponent (binaryExponent num den - f.fractionBits)
    let n := roundHalfEven (num * Nat.pow 2 (-q).toNat) (den * Nat.pow 2 q.toNat)
    min f.infinityBits ((q - f.leastExponent).toNat * Nat.pow 2 f.fractionBits + n)

/-- The bits of the value nearest to `coefficient · 10 ^ exponent`. Far beyond both ends of the
format no power of ten is computed. -/
def BinaryFormat.nearestDecimal (f : BinaryFormat) (coefficient : Nat) (exponent : Int) : Nat :=
  if coefficient = 0 then 0
  else
    let leading := exponent + (Nat.toDigits 10 coefficient).length
    if 400 < leading then f.infinityBits
    else if leading < -400 then 0
    else f.nearest (coefficient * Nat.pow 10 exponent.toNat) (Nat.pow 10 (-exponent).toNat)

end Outbound
