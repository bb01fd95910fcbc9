namespace Outbound

/-- A binary floating-point format, given by the widths of its fraction and its exponent. -/
structure BinaryFormat where
  fractionBits : Nat
  exponentBits : Nat

def BinaryFormat.double : BinaryFormat := ⟨52, 11⟩

def BinaryFormat.single : BinaryFormat := ⟨23, 8⟩

/-- The exponent of the spacing of the least values. -/
def BinaryFormat.leastExponent (f : BinaryFormat) : Int :=
  2 - (Nat.pow 2 (f.exponentBits - 1) : Int) - f.fractionBits

/-- The bits of positive infinity. -/
def BinaryFormat.infinityBits (f : BinaryFormat) : Nat :=
  (Nat.pow 2 f.exponentBits - 1) * Nat.pow 2 f.fractionBits

/-- The bit that makes a value negative. -/
def BinaryFormat.signBit (f : BinaryFormat) : Nat :=
  Nat.pow 2 (f.fractionBits + f.exponentBits)

/-- The value `significand · 2 ^ exponent`. With `narrowBelow` the next value below is half as
far away as the next value above. -/
structure Dyadic where
  significand : Nat
  exponent : Int
  narrowBelow : Bool

inductive Magnitude where
  | finite (value : Dyadic)
  | infinite
  | nan

/-- The magnitude that a bit pattern stands for, whatever its sign. -/
def BinaryFormat.magnitude (f : BinaryFormat) (bits : Nat) : Magnitude :=
  let fraction := bits % Nat.pow 2 f.fractionBits
  let biased := bits / Nat.pow 2 f.fractionBits % Nat.pow 2 f.exponentBits
  if biased = Nat.pow 2 f.exponentBits - 1 then
    if fraction = 0 then .infinite else .nan
  else if biased = 0 then
    .finite ⟨fraction, f.leastExponent, false⟩
  else
    .finite ⟨Nat.pow 2 f.fractionBits + fraction, f.leastExponent + biased - 1,
      fraction = 0 && 1 < biased⟩

/-- Whether the sign bit of a bit pattern is set. -/
def BinaryFormat.isNegative (f : BinaryFormat) (bits : Nat) : Bool :=
  bits / f.signBit % 2 = 1

end Outbound
