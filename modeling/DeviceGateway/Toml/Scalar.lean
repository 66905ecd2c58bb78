/-
# Scalars of TOML

Truth values, numbers and moments are words of one class of characters, so that a word is cut out first
and then has to be one of them as a whole.  Digits may be divided by single underscores.  A whole
number fits sixty-four bits with sign and may be written in the bases two, eight and sixteen.  A double
is the nearest one and may not overflow upwards.
-/

import DeviceGateway.Config.Value
import DeviceGateway.Text.Split
import DeviceGateway.Toml.Moment

namespace DeviceGateway.Toml

open DeviceGateway.Config (Value)

/-- Whether a character may stand in the word of a scalar. -/
def isWordCharacter (c : Char) : Bool :=
  c.isAlphanum || c == '+' || c == '-' || c == '_' || c == '.' || c == ':'

/-- Digits without the single underscores between them. -/
def undivided? (text : List Char) : Option (List Char) :=
  let groups := Text.splitAll '_' text
  if groups.any List.isEmpty then none else some groups.flatten

/-- The value of digits of a base. -/
def inBase? (base : Nat) (text : List Char) : Option Nat := do
  let digits ← undivided? text
  let values ← digits.mapM Numeral.hexDigit?
  if values.all (· < base) then return values.foldl (fun value d => value * base + d) 0 else none

/-- The digits of a decimal number, which start with a zero only where they are a zero alone. -/
def wholeDigits? (text : List Char) : Option (List Char) :=
  if text.head? = some '0' ∧ text ≠ ['0'] then none else undivided? text

/-- A whole number. -/
def integer? (text : List Char) : Option Int :=
  let unsigned : Option (Bool × Nat) :=
    match text with
    | '0' :: 'x' :: digits => (inBase? 16 digits).map fun value => (false, value)
    | '0' :: 'o' :: digits => (inBase? 8 digits).map fun value => (false, value)
    | '0' :: 'b' :: digits => (inBase? 2 digits).map fun value => (false, value)
    | _ =>
      let (negative, digits) := Decimal.splitSign text
      ((wholeDigits? digits).bind Numeral.digits?).map fun value => (negative, value)
  unsigned.bind fun (negative, value) =>
    let signed := if negative then -(value : Int) else value
    if Word.fitsSigned signed then some signed else none

/-- Whether a character may stand among the digits of a number. -/
def isDigitOrDivider (c : Char) : Bool := c.isDigit || c == '_'

/-- The exponent that ends a number. -/
def exponent? : List Char → Option Int
  | mark :: rest =>
    if mark = 'e' ∨ mark = 'E' then
      let (negative, digits) := Decimal.splitSign rest
      ((undivided? digits).bind Numeral.digits?).map fun value =>
        if negative then -(value : Int) else value
    else none
  | [] => none

/-- The digits of a fraction and the exponent after it; one of the two has to be there. -/
def fractionAndExponent? : List Char → Option (List Char × Int)
  | '.' :: rest => do
    let fraction ← undivided? (rest.takeWhile isDigitOrDivider)
    match rest.dropWhile isDigitOrDivider with
    | [] => return (fraction, 0)
    | after => return (fraction, ← exponent? after)
  | text => (exponent? text).map fun exponent => ([], exponent)

/-- A double. -/
def double? (text : List Char) : Option Decimal.Binary64 :=
  let (negative, unsigned) := Decimal.splitSign text
  if unsigned = ['i', 'n', 'f'] then some (.infinity negative)
  else if unsigned = ['n', 'a', 'n'] then some (.noNumber negative)
  else do
    let whole ← wholeDigits? (unsigned.takeWhile isDigitOrDivider)
    let (fraction, exponent) ← fractionAndExponent? (unsigned.dropWhile isDigitOrDivider)
    let significand ← Numeral.digits? (whole ++ fraction)
    let value := Decimal.Binary64.ofDecimal negative significand (exponent - fraction.length)
    if value = .infinity false then none else return value

/-- The value of the word of a scalar. -/
def ofWord? (word : List Char) : Option Value :=
  if word = ['t', 'r', 'u', 'e'] then some (.bool true)
  else if word = ['f', 'a', 'l', 's', 'e'] then some (.bool false)
  else
    match integer? word, double? word, Moment.read? .word word with
    | some value, _, _ => some (.integer value)
    | none, some value, _ => some (.double value)
    | none, none, some value => some (.text value)
    | none, none, none => none

/-- The word at the start of a text, and the text after it.  One space may stand between a date and a
time, and counts as the letter T. -/
def word (text : List Char) : List Char × List Char :=
  let first := text.takeWhile isWordCharacter
  match Moment.date? first, text.dropWhile isWordCharacter with
  | some (_, []), ' ' :: c :: rest =>
    if c.isDigit then
      (first ++ 'T' :: (c :: rest).takeWhile isWordCharacter,
        (c :: rest).dropWhile isWordCharacter)
    else (first, ' ' :: c :: rest)
  | _, rest => (first, rest)

/-- A scalar that is no string. -/
def plain? (text : List Char) : Option (Value × List Char) :=
  let (found, rest) := word text
  (ofWord? found).map fun value => (value, rest)

end DeviceGateway.Toml
