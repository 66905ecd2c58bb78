/-
# Unique identifiers

A unique identifier is sixteen bytes.  It is written as thirty-two lower-case hexadecimal digits in
groups of eight, four, four, four and twelve with hyphens between them.  Four forms are read: the
digits alone, the groups with hyphens, these in braces, and these after `urn:uuid:`; letters may be of
either case.
-/

import DeviceGateway.Json.Printer
import DeviceGateway.Text.Split

namespace DeviceGateway

/-- Sixteen bytes. -/
structure Uuid where
  /-- The bytes, from the first on. -/
  bytes : Bytes
  /-- There are sixteen of them. -/
  length_eq : bytes.length = 16
deriving DecidableEq

namespace Uuid

/-- The two hexadecimal digits of a byte. -/
def byteText (b : UInt8) : List Char :=
  [Json.hexDigit (b.toNat / 16), Json.hexDigit (b.toNat % 16)]

/-- The hexadecimal digits of bytes. -/
def hexText (bytes : Bytes) : List Char := bytes.flatMap byteText

/-- The identifier in groups of digits with hyphens between them. -/
def hyphenated (id : Uuid) : String :=
  let digits := hexText id.bytes
  String.ofList (digits.take 8 ++ '-' :: ((digits.drop 8).take 4 ++ '-' ::
    ((digits.drop 12).take 4 ++ '-' :: ((digits.drop 16).take 4 ++ '-' :: digits.drop 20))))

/-- The bytes of pairs of hexadecimal digits. -/
def ofHex? : List Char → Option Bytes
  | [] => some []
  | [_] => none
  | high :: low :: rest =>
    match Numeral.hexDigit? high, Numeral.hexDigit? low with
    | some high, some low => (ofHex? rest).map (UInt8.ofNat (high * 16 + low) :: ·)
    | _, _ => none

/-- The identifier of thirty-two digits. -/
def ofDigits? (digits : List Char) : Option Uuid :=
  match ofHex? digits with
  | some bytes => if sixteen : bytes.length = 16 then some ⟨bytes, sixteen⟩ else none
  | none => none

/-- The identifier of groups of digits with hyphens between them. -/
def ofHyphenated? (text : List Char) : Option Uuid :=
  let groups := Text.splitAll '-' text
  if groups.map List.length = [8, 4, 4, 4, 12] then ofDigits? groups.flatten else none

/-- Read an identifier in one of its four forms. -/
def parse? (text : String) : Option Uuid :=
  let characters := text.toList
  if characters.length = 32 then ofDigits? characters
  else if characters.length = 36 then ofHyphenated? characters
  else if characters.length = 38 then
    match characters with
    | '\x7b' :: rest => if rest.getLast? = some '\x7d' then ofHyphenated? rest.dropLast else none
    | _ => none
  else if (characters.take 9).map Char.toLower = "urn:uuid:".toList then
    ofHyphenated? (characters.drop 9)
  else none

end Uuid

end DeviceGateway
