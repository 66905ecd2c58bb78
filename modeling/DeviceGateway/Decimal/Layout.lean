/-
# Writing digits

How the digits of a double are laid out.  One record says what a format decides: between which
powers of ten a number is written plainly, whether a whole number keeps a fraction, and which of two
equally near digits is written.  Outside the plain range the first digit stands before the
point and an exponent follows, with a sign in both directions.
-/

import DeviceGateway.Decimal.Shortest
import DeviceGateway.Text.Numeral

namespace DeviceGateway.Decimal

/-- The decisions of a format for doubles. -/
structure Layout where
  /-- Whether a number whose first digit has this power of ten is written without exponent. -/
  plain : Int → Bool
  /-- Whether a whole number that is written plainly ends in `.0`. -/
  keepsFraction : Bool
  /-- Which of two equally near last digits is written. -/
  tie : Tie

/-- Every number is written without exponent, and a whole number without fraction.  Of two equally near
last digits the greater one is written. -/
def Layout.positional : Layout where
  plain := fun _ => true
  keepsFraction := false
  tie := .away

/-- Numbers from 0.00001 to below 10^16 are written plainly and always with a fraction.  Of two equally
near last digits the even one is written. -/
def Layout.json : Layout where
  plain := fun exponent => -5 ≤ exponent && exponent ≤ 15
  keepsFraction := true
  tie := .even

private def digitText (digits : List Nat) : List Char :=
  digits.map fun d => Char.ofNat ('0'.toNat + d)

/-- Digits written without exponent. -/
def plainText (keepsFraction : Bool) (number : Digits) : List Char :=
  let digits := digitText number.digits
  if number.exponent < 0 then
    '0' :: '.' :: (List.replicate (-number.exponent - 1).toNat '0' ++ digits)
  else
    let whole := number.exponent.toNat + 1
    if digits.length ≤ whole then
      digits ++ List.replicate (whole - digits.length) '0' ++ (if keepsFraction then ['.', '0'] else [])
    else
      digits.take whole ++ '.' :: digits.drop whole

/-- Digits written with an exponent. -/
def exponentText (number : Digits) : List Char :=
  let mantissa := match digitText number.digits with
    | [] => []
    | [only] => [only]
    | first :: rest => first :: '.' :: rest
  let sign := if number.exponent < 0 then '-' else '+'
  mantissa ++ 'e' :: sign :: (Numeral.ofNat number.exponent.natAbs).toList

/-- The text of a double.  A double that is no number or infinite has the text `NaN` or `inf`. -/
def Layout.write (layout : Layout) (double : Binary64) : String :=
  let sign := if double.negative then ['-'] else []
  if double.isNaN then "NaN"
  else if !double.isFinite then String.ofList (sign ++ ['i', 'n', 'f'])
  else if double.significand = 0 then
    String.ofList (sign ++ '0' :: (if layout.keepsFraction then ['.', '0'] else []))
  else
    let number := shortest layout.tie double
    if layout.plain number.exponent then
      String.ofList (sign ++ plainText layout.keepsFraction number)
    else
      String.ofList (sign ++ exponentText number)

end DeviceGateway.Decimal
