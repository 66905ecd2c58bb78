/-
# Reading decimal texts

The double that a decimal text stands for.  A text is an optional sign and then digits with at most
one point among or beside them and an optional exponent, or one of the names of infinity and of what
is no number, in any case.  The double is the nearest one.
-/

import DeviceGateway.Decimal.Nearest
import DeviceGateway.Text.Numeral

namespace DeviceGateway.Decimal

/-- The sign in front of a text, and the text after it. -/
def splitSign : List Char → Bool × List Char
  | '-' :: rest => (true, rest)
  | '+' :: rest => (false, rest)
  | text => (false, text)

/-- Whether a character is a decimal digit. -/
def isDigit (c : Char) : Bool := (Numeral.digit? c).isSome

/-- The exponent that ends a text; there may be none. -/
def exponent? : List Char → Option Int
  | [] => some 0
  | mark :: rest =>
    if mark = 'e' ∨ mark = 'E' then
      let (negative, digits) := splitSign rest
      (Numeral.digits? digits).map fun value => if negative then -(value : Int) else value
    else none

/-- The digits before and after the point of a text, and the text after them. -/
def mantissa (text : List Char) : List Char × List Char × List Char :=
  let whole := text.takeWhile isDigit
  match text.dropWhile isDigit with
  | '.' :: rest => (whole, rest.takeWhile isDigit, rest.dropWhile isDigit)
  | rest => (whole, [], rest)

/-- The double that a text without sign stands for. -/
def unsigned? (negative : Bool) (text : List Char) : Option Binary64 :=
  let name := String.ofList (text.map Char.toLower)
  if name = "inf" ∨ name = "infinity" then some (.infinity negative)
  else if name = "nan" then some (.noNumber negative)
  else
    let (whole, fraction, rest) := mantissa text
    match Numeral.digits? (whole ++ fraction), exponent? rest with
    | some significand, some exponent =>
      some (.ofDecimal negative significand (exponent - fraction.length))
    | _, _ => none

/-- The double that a text stands for. -/
def Binary64.parse? (text : List Char) : Option Binary64 :=
  let (negative, rest) := splitSign text
  unsigned? negative rest

end DeviceGateway.Decimal
