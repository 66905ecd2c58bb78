/-
# The value of a number

A number that is written without point and exponent is an integer when it fits sixty-four bits, with
sign if it is negative and without otherwise; negative zero is a double.  Any other number is a
double that is computed in a fixed way: the digits are gathered into a significand of sixty-four
bits, digits that no longer fit are dropped and count as powers of ten before the point, and the
significand is then multiplied or divided by a power of ten.  Every step rounds, so that the result
can differ in the last place from the double nearest to the written number.

A number that would overflow to infinity is refused.
-/

import DeviceGateway.Json.Syntax
import DeviceGateway.Json.Value

namespace DeviceGateway.Json

namespace Number

/-- The greatest significand. -/
abbrev greatestSignificand : Nat := Word.greatest64

/-- Gather the digits before the point.  The second part is the number of digits that no longer
fit. -/
def gatherWhole (significand : Nat) : List Nat → Nat × Nat
  | [] => (significand, 0)
  | d :: rest =>
    if significand * 10 + d ≤ greatestSignificand then gatherWhole (significand * 10 + d) rest
    else (significand, (d :: rest).length)

/-- Gather the digits after the point, up to the first that no longer fits.  The second part is the
number of digits gathered. -/
def gatherFraction (significand gathered : Nat) : List Nat → Nat × Nat
  | [] => (significand, gathered)
  | d :: rest =>
    if significand * 10 + d ≤ greatestSignificand then
      gatherFraction (significand * 10 + d) (gathered + 1) rest
    else (significand, gathered)

/-- The number of digits as a natural number. -/
def ofDigits (digits : List Nat) : Nat := digits.foldl (fun value d => value * 10 + d) 0

/-- The double nearest to a power of ten. -/
def powerOfTen (exponent : Nat) : Float := Float.ofScientific 1 false exponent

/-- Scale a double by a power of ten.  A power beyond 10^308 is applied in steps of 308, which
ends after at most four steps because the double has become zero by then. -/
def scale (value : Float) (exponent : Int) : (steps : Nat) → Option Float
  | 0 => some value
  | steps + 1 =>
    if exponent.natAbs ≤ 308 then
      if exponent ≥ 0 then
        let scaled := value * powerOfTen exponent.natAbs
        if scaled.isInf then none else some scaled
      else some (value / powerOfTen exponent.natAbs)
    else if value == 0 then some value
    else if exponent ≥ 0 then none
    else scale (value / powerOfTen 308) (exponent + 308) steps

/-- The greatest exponent that is written out; a greater one stands for an unbounded one. -/
def greatestExponent : Nat := 0x7FFFFFFF

/-- The double of a significand and a power of ten, with the sign of the numeral. -/
def double? (negative : Bool) (significand : Nat) (exponent : Int) : Option Number :=
  (scale significand.toUInt64.toFloat exponent 6).map fun magnitude =>
    .double (Decimal.Binary64.ofFloat (if negative then -magnitude else magnitude))

/-- The value of a numeral, unless it overflows. -/
def of? (numeral : Numeral) : Option Number :=
  let (whole, surplus) := gatherWhole 0 numeral.whole
  if surplus = 0 ∧ numeral.fraction = [] ∧ numeral.exponent = none then
    if !numeral.negative then some (.integer whole)
    else if 0 < whole ∧ whole ≤ Word.half64 then some (.integer (-(whole : Int)))
    else double? true whole 0
  else
    let (significand, gathered) := gatherFraction whole 0 numeral.fraction
    let exponent : Int := surplus - gathered
    match numeral.exponent with
    | none => double? numeral.negative significand exponent
    | some (negativeExponent, digits) =>
      let written := ofDigits digits
      if greatestExponent < written then
        if significand ≠ 0 ∧ !negativeExponent then none
        else double? numeral.negative 0 0
      else
        double? numeral.negative significand
          (if negativeExponent then exponent - written else exponent + written)

end Number

end DeviceGateway.Json
