/-
# Reading JSON values

From the syntax of a document to its value.  Strings have to be UTF-8 with paired surrogates, numbers
have to be in range, and arrays and objects may be nested 127 deep.  A name that occurs twice in an
object keeps its last value.
-/

import DeviceGateway.Json.Number

namespace DeviceGateway.Json

/-- How deep arrays and objects may be nested. -/
def greatestDepth : Nat := 127

/-- The bytes of a code point. -/
def codePoint (code : Nat) : Bytes := String.utf8EncodeChar (Char.ofNat code)

/-- The bytes of the pieces of a string.  A unit from 0xD800 to 0xDBFF and a unit from 0xDC00 to
0xDFFF directly after it are one code point; either of them alone is refused. -/
def pieceBytes? (before : Bytes) : List Piece → Option Bytes
  | [] => some before.reverse
  | .byte b :: rest => pieceBytes? (b :: before) rest
  | .unit high :: .unit low :: rest =>
    if 0xD800 ≤ high ∧ high ≤ 0xDBFF then
      if 0xDC00 ≤ low ∧ low ≤ 0xDFFF then
        pieceBytes?
          ((codePoint (0x10000 + (high - 0xD800) * 0x400 + (low - 0xDC00))).reverse ++ before) rest
      else none
    else if 0xDC00 ≤ high ∧ high ≤ 0xDFFF then none
    else pieceBytes? ((codePoint high).reverse ++ before) (.unit low :: rest)
  | .unit single :: rest =>
    if 0xD800 ≤ single ∧ single ≤ 0xDFFF then none
    else pieceBytes? ((codePoint single).reverse ++ before) rest

/-- The text of a string. -/
def pieceText? (pieces : List Piece) : Option String :=
  (pieceBytes? [] pieces).bind Utf8.toString?

mutual

/-- The value of a document whose arrays and objects may be nested `depth` deep. -/
def Syntax.value? (depth : Nat) : Syntax → Option Value
  | .null => some .null
  | .bool value => some (.bool value)
  | .number numeral => (Number.of? numeral).map .number
  | .text pieces => (pieceText? pieces).map .text
  | .array items =>
    match depth with
    | 0 => none
    | depth + 1 => (itemValues? depth items).map .array
  | .object members =>
    match depth with
    | 0 => none
    | depth + 1 => (memberValues? depth [] members).map .object

/-- The values of the items of an array. -/
def itemValues? (depth : Nat) : List Syntax → Option (List Value)
  | [] => some []
  | item :: rest =>
    match item.value? depth with
    | none => none
    | some value => (itemValues? depth rest).map (value :: ·)

/-- The members of an object in the order of their names, after those in `before`. -/
def memberValues? (depth : Nat) (before : List (String × Value)) :
    List (List Piece × Syntax) → Option (List (String × Value))
  | [] => some before
  | (name, member) :: rest =>
    match pieceText? name with
    | none => none
    | some name =>
      match member.value? depth with
      | none => none
      | some value => memberValues? depth (Entries.insert name value before) rest

end

/-- The object that a value is, if it is one. -/
def Value.asObject? : Value → Option Object
  | .object members => some (TextMap.ofList members)
  | _ => none

/-- The object of a document, if the document is an object. -/
def Syntax.object? (depth : Nat) (document : Syntax) : Option Object :=
  (document.value? depth).bind Value.asObject?

/-- The value of a document given as bytes. -/
def Value.read? (input : Bytes) : Option Value :=
  (Syntax.read? input).bind (Syntax.value? greatestDepth)

end DeviceGateway.Json
