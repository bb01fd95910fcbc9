import Outbound.Decimal.Binary

namespace Outbound

/-- The value `coefficient · 10 ^ exponent`. -/
structure Decimal where
  coefficient : Nat
  exponent : Int

/-- Which of two equally near decimals is taken. -/
inductive Tie where
  | toEven
  | up

/-- The greatest `e` for which `10 ^ e` is not above a positive quotient. -/
def leadingExponent (num den : Nat) : Int :=
  let e : Int := (Nat.toDigits 10 num).length - (Nat.toDigits 10 den).length
  if den * Nat.pow 10 e.toNat ≤ num * Nat.pow 10 (-e).toNat then e else e - 1

/-- The same value without zeros at the end of its coefficient. -/
def Decimal.trim (d : Decimal) : Decimal :=
  if h : d.coefficient ≠ 0 ∧ d.coefficient % 10 = 0 then
    Decimal.trim ⟨d.coefficient / 10, d.exponent + 1⟩
  else d
termination_by d.coefficient
decreasing_by exact Nat.div_lt_self (Nat.pos_of_ne_zero h.1) (by decide)

/-- The numbers that are rounded to a dyadic value, as fractions over one denominator. Both ends
belong to them when `closed` holds. -/
structure Roundings where
  low : Nat
  value : Nat
  high : Nat
  den : Nat
  closed : Bool

def Dyadic.roundings (d : Dyadic) : Roundings :=
  let scale := Nat.pow 2 (d.exponent - 2).toNat
  ⟨(4 * d.significand - if d.narrowBelow then 1 else 2) * scale,
    4 * d.significand * scale,
    (4 * d.significand + 2) * scale,
    Nat.pow 2 (2 - d.exponent).toNat,
    d.significand % 2 = 0⟩

/-- The multiple of `10 ^ k` that is rounded to the value, the nearer of two neighbours. -/
def Roundings.onGrid (r : Roundings) (tie : Tie) (k : Int) : Option Decimal :=
  let up := Nat.pow 10 (-k).toNat
  let step := r.den * Nat.pow 10 k.toNat
  let below := r.value * up / step
  let within (a b : Nat) : Bool := if r.closed then a ≤ b else a < b
  let lower := within (r.low * up) (below * step)
  let upper := within ((below + 1) * step) (r.high * up)
  let twice := 2 * (r.value * up - below * step)
  let takeUpper :=
    upper && (!lower || step < twice ||
      (step = twice && match tie with | .up => true | .toEven => below % 2 = 1))
  if takeUpper then some ⟨below + 1, k⟩
  else if lower then some ⟨below, k⟩
  else none

/-- The first hit on grids that grow finer, `tries` of them. -/
def Roundings.search (r : Roundings) (tie : Tie) (k : Int) : Nat → Decimal
  | 0 => ⟨r.value * Nat.pow 10 (-k).toNat / (r.den * Nat.pow 10 k.toNat), k⟩
  | tries + 1 => (r.onGrid tie k).getD (r.search tie (k - 1) tries)

/-- The decimal with the fewest digits that is rounded to the value, and of these the nearest.
Seventeen digits are enough for every format here. -/
def Dyadic.shortest (tie : Tie) (d : Dyadic) : Decimal :=
  if d.significand = 0 then ⟨0, 0⟩
  else
    let r := d.roundings
    (r.search tie (leadingExponent r.value r.den) 17).trim

end Outbound
