/-
# Configuration values

The values that files and variables give to settings.  They are read leniently, because a variable of
the environment cannot say whether `1` is a number, a truth value or a text: whoever wants a scalar of
one type gets it from a scalar of another type wherever there is an obvious one.  Only lists and tables
are what they are, and a value that is absent fits nothing but an optional field.
-/

import DeviceGateway.Data.TextMap
import DeviceGateway.Data.Word
import DeviceGateway.Decimal.Layout
import DeviceGateway.Decimal.Reading
import DeviceGateway.Format

namespace DeviceGateway.Config

/-- A configuration value. -/
inductive Value where
  /-- No value: an item of a list that nobody has set. -/
  | absent
  | bool (value : Bool)
  /-- A whole number of sixty-four bits with sign. -/
  | integer (value : Int)
  | double (value : Decimal.Binary64)
  | text (value : String)
  | array (items : List Value)
  /-- Values under names, which stand in their order. -/
  | table (members : List (String × Value))

namespace Value

instance : Inhabited Value := ⟨absent⟩

/-- The truth value that a word stands for. -/
def ofWord? (word : String) : Option Bool :=
  if word ∈ ["true", "on", "yes"] then some true
  else if word ∈ ["false", "off", "no"] then some false
  else none

/-- A text in small letters. -/
def lower (text : String) : String := String.ofList (text.toList.map Char.toLower)

/-- The text of a scalar. -/
def text? : Value → Option String
  | text value => some value
  | bool value => some (if value then "true" else "false")
  | integer value => some (Numeral.ofInt value)
  | double value => some (Decimal.Layout.positional.write value)
  | absent | array _ | table _ => none

/-- The truth value of a scalar: a number is false when it is zero, and a text is a word or one of the
digits 0 and 1. -/
def bool? : Value → Option Bool
  | bool value => some value
  | integer value => some (value != 0)
  | double value => some (value.isNaN || value.significand != 0)
  | text value =>
    if value = "1" then some true
    else if value = "0" then some false
    else ofWord? (lower value)
  | absent | array _ | table _ => none

/-- The whole number of a scalar, without sign: a double is rounded and cut to the range, and a word
counts as one or zero. -/
def nat? : Value → Option Nat
  | bool value => some value.toNat
  | integer value => if 0 ≤ value then some value.toNat else none
  | double value => some (value.nearestNat Word.greatest64)
  | text value =>
    match ofWord? (lower value) with
    | some truth => some truth.toNat
    | none => Numeral.natural? Word.greatest64 value.toList
  | absent | array _ | table _ => none

/-- The double of a scalar. -/
def double? : Value → Option Decimal.Binary64
  | bool value => some (.ofInt value.toNat)
  | integer value => some (.ofInt value)
  | double value => some value
  | text value =>
    match ofWord? (lower value) with
    | some truth => some (.ofInt truth.toNat)
    | none => Decimal.Binary64.parse? value.toList
  | absent | array _ | table _ => none

/-- Whether a value is absent. -/
def isAbsent : Value → Bool
  | absent => true
  | _ => false

/-- The items of a list. -/
def items? : Value → Option (List Value)
  | array items => some items
  | _ => none

/-- The known fields of a record, which is a table with the fields under their names or a list with the
fields in their order.  What there is beyond them is ignored. -/
def fields? (names : List String) : Value → Option (Fields Value)
  | table members => some (members.filter fun member => member.1 ∈ names)
  | array items => some (names.zip items)
  | _ => none

end Value

/-- Configuration values as a format. -/
def format : Format Value where
  text := Value.text?
  bool := Value.bool?
  natural limit value := value.nat?.filter (· ≤ limit)
  double := Value.double?
  isNothing := Value.isAbsent
  items := Value.items?
  fields := Value.fields?

end DeviceGateway.Config
