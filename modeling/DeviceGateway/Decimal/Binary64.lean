/-
# Doubles as exact numbers

A finite double is, up to its sign, a natural number times a power of two.  This module reads the two
out of the sixty-four bits of a double, so that everything which is said about the decimal text of a
double can be computed in exact arithmetic on natural numbers.  Doubles are kept as their bits: two
doubles are then equal exactly when they are the same double, zero and negative zero included.
-/

import DeviceGateway.Decimal.Power

namespace DeviceGateway.Decimal

/-- A double, kept as its sixty-four bits. -/
structure Binary64 where
  /-- The sign bit, eleven bits of exponent and fifty-two bits of fraction. -/
  bits : UInt64
deriving DecidableEq, Repr, Inhabited

namespace Binary64

/-- The double of a floating-point value. -/
def ofFloat (value : Float) : Binary64 := ⟨value.toBits⟩

/-- The floating-point value of a double. -/
def toFloat (value : Binary64) : Float := Float.ofBits value.bits

/-- Whether the sign bit is set. -/
def negative (value : Binary64) : Bool := value.bits >>> 63 == 1

/-- The eleven bits of the exponent. -/
def biasedExponent (value : Binary64) : Nat := ((value.bits >>> 52) &&& 0x7FF).toNat

/-- The fifty-two bits of the fraction. -/
def fraction (value : Binary64) : Nat := (value.bits &&& 0xFFFFFFFFFFFFF).toNat

/-- Whether a double is neither infinite nor no number. -/
def isFinite (value : Binary64) : Bool := value.biasedExponent < 0x7FF

/-- Whether a double is no number. -/
def isNaN (value : Binary64) : Bool := value.biasedExponent == 0x7FF && value.fraction != 0

/-- The natural number of a finite double. -/
def significand (value : Binary64) : Nat :=
  if value.biasedExponent = 0 then value.fraction else twoTo 52 + value.fraction

/-- The power of two that goes with the natural number. -/
def exponent (value : Binary64) : Int :=
  (max value.biasedExponent 1 : Nat) - 1075

/-- Whether the next smaller double is only half as far away as the next greater one, which is so
at the powers of two. -/
def narrowBelow (value : Binary64) : Bool :=
  value.fraction == 0 && value.biasedExponent > 1

end Binary64

end DeviceGateway.Decimal
