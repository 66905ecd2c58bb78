/-
# Decimal numerals

Whole numbers as they are written in topics, settings and level names: decimal digits, any number
of leading zeros, a leading `+` allowed and, for signed numbers, a leading `-`.  Nothing else may
surround the digits, and a value outside the bounds of its field is no numeral of that field.
-/

import DeviceGateway.Data.Word

namespace DeviceGateway.Numeral

/-- The value of a decimal digit. -/
def digit? (c : Char) : Option Nat :=
  if '0' ≤ c ∧ c ≤ '9' then some (c.toNat - '0'.toNat) else none

/-- The value of a hexadecimal digit in either case. -/
def hexDigit? (c : Char) : Option Nat :=
  if '0' ≤ c ∧ c ≤ '9' then some (c.toNat - '0'.toNat)
  else if 'a' ≤ c ∧ c ≤ 'f' then some (c.toNat - 'a'.toNat + 10)
  else if 'A' ≤ c ∧ c ≤ 'F' then some (c.toNat - 'A'.toNat + 10)
  else none

/-- The value of a sequence of digits after those that gave `value`. -/
def digitsFrom (value : Nat) : List Char → Option Nat
  | [] => some value
  | c :: rest =>
    match digit? c with
    | some d => digitsFrom (value * 10 + d) rest
    | none => none

/-- The value of one or more digits. -/
def digits? : List Char → Option Nat
  | [] => none
  | c :: rest => digitsFrom 0 (c :: rest)

/-- A number from 0 to `greatest`. -/
def natural? (greatest : Nat) (text : List Char) : Option Nat :=
  let unsigned := match text with
    | '+' :: rest => rest
    | _ => text
  (digits? unsigned).filter (· ≤ greatest)

/-- A number of sixty-four bits with sign. -/
def integer? (text : List Char) : Option Int :=
  match text with
  | '-' :: rest =>
    match digits? rest with
    | some n => if n ≤ Word.half64 then some (-(n : Int)) else none
    | none => none
  | _ => (natural? (Word.half64 - 1) text).map Int.ofNat

/-- The decimal digits of a number, without leading zeros. -/
def ofNat (n : Nat) : String := Nat.repr n

/-- The decimal text of a number, with a leading `-` when it is negative. -/
def ofInt : Int → String
  | Int.ofNat n => ofNat n
  | Int.negSucc n => "-" ++ ofNat (n + 1)

/-- Digits with zeros in front up to a width. -/
def padded (width n : Nat) : String :=
  let digits := (ofNat n).toList
  String.ofList (List.replicate (width - digits.length) '0' ++ digits)

end DeviceGateway.Numeral
