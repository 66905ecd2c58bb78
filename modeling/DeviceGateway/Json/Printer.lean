/-
# Printing JSON

The compact text of a value: no white space, names and strings between quotes with an escape only for
the quote, the backslash and the control characters below U+0020, doubles with the fewest digits
that read back.
-/

import DeviceGateway.Decimal.Layout
import DeviceGateway.Json.Value
import DeviceGateway.Text.Utf8

namespace DeviceGateway.Json

/-- A hexadecimal digit, in lower case. -/
def hexDigit (n : Nat) : Char :=
  if n < 10 then Char.ofNat ('0'.toNat + n) else Char.ofNat ('a'.toNat + (n - 10))

/-- A character inside a string. -/
def escape (c : Char) : List Char :=
  if c = '"' then ['\\', '"']
  else if c = '\\' then ['\\', '\\']
  else if c.toNat < 0x20 then
    if c.toNat = 0x08 then ['\\', 'b']
    else if c.toNat = 0x09 then ['\\', 't']
    else if c.toNat = 0x0A then ['\\', 'n']
    else if c.toNat = 0x0C then ['\\', 'f']
    else if c.toNat = 0x0D then ['\\', 'r']
    else ['\\', 'u', '0', '0', hexDigit (c.toNat / 16), hexDigit (c.toNat % 16)]
  else [c]

/-- A string with its quotes. -/
def quote (text : String) : List Char :=
  '"' :: (text.toList.flatMap escape ++ ['"'])

/-- A number. -/
def Number.print : Number → List Char
  | .integer value => (DeviceGateway.Numeral.ofInt value).toList
  | .double value => (Decimal.Layout.json.write value).toList

mutual

/-- The compact text of a value. -/
def Value.print : Value → List Char
  | .null => ['n', 'u', 'l', 'l']
  | .bool true => ['t', 'r', 'u', 'e']
  | .bool false => ['f', 'a', 'l', 's', 'e']
  | .number value => value.print
  | .text value => quote value
  | .array [] => ['[', ']']
  | .array (item :: items) => '[' :: (item.print ++ printItems items)
  | .object [] => ['{', '}']
  | .object ((name, value) :: members) =>
    '{' :: (quote name ++ ':' :: (value.print ++ printMembers members))

/-- The items of an array after the first, with the closing bracket. -/
def printItems : List Value → List Char
  | [] => [']']
  | item :: items => ',' :: (item.print ++ printItems items)

/-- The members of an object after the first, with the closing brace. -/
def printMembers : List (String × Value) → List Char
  | [] => ['}']
  | (name, value) :: members =>
    ',' :: (quote name ++ ':' :: (value.print ++ printMembers members))

end

/-- The compact text of a value as a string. -/
def Value.toText (value : Value) : String := String.ofList value.print

/-- The compact text of a value as bytes. -/
def Value.toBytes (value : Value) : Bytes := Utf8.encode value.print

end DeviceGateway.Json
