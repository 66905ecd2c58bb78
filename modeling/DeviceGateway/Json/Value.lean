/-
# JSON values

The values of JSON documents.  A number is an integer when it is written as one and fits sixty-four
bits with or without sign, and a double otherwise, so that `1` and `1.0` are different values.  The
members of an object stand in the order of their names, each name once.
-/

import DeviceGateway.Data.TextMap
import DeviceGateway.Data.Word
import DeviceGateway.Decimal.Binary64

namespace DeviceGateway.Json

/-- A number. -/
inductive Number where
  /-- A whole number from `-2^63` to `2^64 - 1`. -/
  | integer (value : Int)
  /-- A finite double. -/
  | double (value : Decimal.Binary64)
deriving DecidableEq, Repr, Inhabited

/-- A JSON value. -/
inductive Value where
  | null
  | bool (value : Bool)
  | number (value : Number)
  | text (value : String)
  | array (items : List Value)
  | object (members : List (String × Value))
deriving Inhabited

/-- An object: the members under their names. -/
abbrev Object := TextMap Value

namespace Value

/-- The whole number that a value is, if it fits sixty-four bits with sign. -/
def asInt64? : Value → Option Int
  | .number (.integer value) => if Word.fitsSigned value then some value else none
  | _ => none

/-- The value of a natural number. -/
def ofNat (n : Nat) : Value := .number (.integer n)

/-- The value of an integer. -/
def ofInt (value : Int) : Value := .number (.integer value)

/-- The value of an object. -/
def ofObject (object : Object) : Value := .object object.entries

/-- What kind of value this is, with its article. -/
def kind : Value → String
  | .null => "null"
  | .bool _ => "a boolean"
  | .number _ => "a number"
  | .text _ => "a string"
  | .array _ => "an array"
  | .object _ => "an object"

end Value

end DeviceGateway.Json
