/-
# Percent encoding

A text written with the characters that a property bag keeps: ASCII letters and digits and the marks
`$`, `.`, `-`, `_` and `~`.  Every other byte of its UTF-8 form is written as a percent sign and two
upper-case hexadecimal digits.  Reading turns every percent sign with two hexadecimal digits after it
into a byte and keeps any other percent sign as it is.
-/

import DeviceGateway.Text.Utf8

namespace DeviceGateway.Percent

/-- Whether a byte is written as the ASCII character it is. -/
def isKept (b : UInt8) : Bool :=
  (0x30 ≤ b && b ≤ 0x39) || (0x41 ≤ b && b ≤ 0x5A) || (0x61 ≤ b && b ≤ 0x7A) ||
    b == 0x24 || b == 0x2E || b == 0x2D || b == 0x5F || b == 0x7E

/-- A hexadecimal digit, in upper case. -/
def hexDigit (n : Nat) : Char :=
  if n < 10 then Char.ofNat ('0'.toNat + n) else Char.ofNat ('A'.toNat + (n - 10))

/-- The value of a hexadecimal digit in either case. -/
def hexValue? (b : UInt8) : Option Nat :=
  if 0x30 ≤ b ∧ b ≤ 0x39 then some (b.toNat - 0x30)
  else if 0x41 ≤ b ∧ b ≤ 0x46 then some (b.toNat - 0x37)
  else if 0x61 ≤ b ∧ b ≤ 0x66 then some (b.toNat - 0x57)
  else none

/-- A byte as it is written. -/
def encodeByte (b : UInt8) : List Char :=
  if isKept b then [Char.ofNat b.toNat]
  else ['%', hexDigit (b.toNat / 16), hexDigit (b.toNat % 16)]

/-- A text as it is written. -/
def encode (text : String) : List Char :=
  (Utf8.ofString text).flatMap encodeByte

/-- The bytes of a written text. -/
def decodeBytes : Bytes → Bytes
  | 0x25 :: high :: low :: rest =>
    match hexValue? high, hexValue? low with
    | some a, some b => UInt8.ofNat (a * 16 + b) :: decodeBytes rest
    | _, _ => 0x25 :: decodeBytes (high :: low :: rest)
  | b :: rest => b :: decodeBytes rest
  | [] => []

/-- A text as it is read; bytes that are not UTF-8 are replaced. -/
def decode (written : List Char) : String :=
  Utf8.toStringLossy (decodeBytes (Utf8.encode written))

end DeviceGateway.Percent
