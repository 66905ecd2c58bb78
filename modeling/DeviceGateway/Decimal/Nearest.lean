/-
# The nearest double

The double nearest to a rational number, where a tie goes to the double with the even significand, and
the natural number nearest to a double.  Both are computed exactly: the power of two of the last place
is found first, the quotient is rounded once to a whole number of last places, and the result is put
together from the two.  A carry out of the significand moves into the exponent by itself, because a
double and its successor differ by one as sequences of bits.
-/

import DeviceGateway.Decimal.Binary64

namespace DeviceGateway.Decimal

/-- A quotient rounded to the nearest natural number, a tie to the even one. -/
def roundedQuotient (numerator denominator : Nat) : Nat :=
  let below := numerator / denominator
  let twice := 2 * (numerator % denominator)
  if twice < denominator then below
  else if denominator < twice then below + 1
  else below + below % 2

/-- The quotient of a fraction by a power of two, as a fraction. -/
def inUnits (numerator denominator : Nat) (unit : Int) : Nat × Nat :=
  (numerator * twoTo (-unit).toNat, denominator * twoTo unit.toNat)

/-- The power of two of the last of fifty-three binary places of a positive fraction. -/
def lastPlace (numerator denominator : Nat) : Int :=
  let guess : Int := (numerator.log2 : Int) - denominator.log2 - 52
  let (above, below) := inUnits numerator denominator guess
  if above / below < twoTo 52 then guess - 1 else guess

namespace Binary64

/-- The bits of infinity. -/
def infinityBits : Nat := 0x7FF * twoTo 52

/-- A double of its sign and its other bits. -/
def ofMagnitude (negative : Bool) (bits : Nat) : Binary64 :=
  ⟨.ofNat (if negative then twoTo 63 + bits else bits)⟩

/-- Infinity with a sign. -/
def infinity (negative : Bool) : Binary64 := ofMagnitude negative infinityBits

/-- A double that is no number. -/
def noNumber (negative : Bool) : Binary64 := ofMagnitude negative (infinityBits + twoTo 51)

/-- The double nearest to a fraction; infinity when that is beyond all finite doubles. -/
def nearest (negative : Bool) (numerator denominator : Nat) : Binary64 :=
  if numerator = 0 then ofMagnitude negative 0
  else
    let unit := max (lastPlace numerator denominator) (-1074)
    let (above, below) := inUnits numerator denominator unit
    let bits := (unit + 1074).toNat * twoTo 52 + roundedQuotient above below
    ofMagnitude negative (min bits infinityBits)

/-- The double nearest to a whole number. -/
def ofInt (value : Int) : Binary64 := nearest (value < 0) value.natAbs 1

/-- The double nearest to `significand` times ten to the power `exponent`.  Far beyond the range of
doubles no power of ten is computed. -/
def ofDecimal (negative : Bool) (significand : Nat) (exponent : Int) : Binary64 :=
  let leading := ((Nat.toDigits 10 significand).length : Int) + exponent
  if significand = 0 ∨ leading < -400 then ofMagnitude negative 0
  else if 400 < leading then infinity negative
  else nearest negative (significand * tenTo exponent.toNat) (tenTo (-exponent).toNat)

/-- The natural number nearest to a double, the greater one of two.  A negative double and one that
is no number give zero, and a double beyond `greatest` gives `greatest`. -/
def nearestNat (greatest : Nat) (value : Binary64) : Nat :=
  if value.isNaN || value.negative then 0
  else if !value.isFinite then greatest
  else
    let (above, below) := inUnits value.significand 1 (-value.exponent)
    min ((2 * above + below) / (2 * below)) greatest

end Binary64

end DeviceGateway.Decimal
