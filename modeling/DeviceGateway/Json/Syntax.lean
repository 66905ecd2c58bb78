/-
# JSON syntax

A document as it is written: which brackets, strings and digits stand where, before anything is said
about their meaning.  A string is a sequence of bytes and of escaped sixteen-bit units, a number a
sequence of digits.  That the bytes are UTF-8, that the units are paired, that a number is in range
and that the nesting is not too deep is checked only where a value is taken from the syntax, so that
a part of a document which nobody asks for has to be grammatical and nothing else.

The reader takes the input as a list of bytes and returns what follows the part it read.
-/

import DeviceGateway.Text.Utf8

namespace DeviceGateway.Json

/-- A part of a string: a byte of its UTF-8 form, or a unit of its UTF-16 form that was written as
an escape. -/
inductive Piece where
  | byte (value : UInt8)
  | unit (value : Nat)
deriving DecidableEq, Repr

/-- A number as it is written. -/
structure Numeral where
  /-- Whether it starts with a minus sign. -/
  negative : Bool
  /-- The digits before the point. -/
  whole : List Nat
  /-- The digits after the point; none without a point. -/
  fraction : List Nat
  /-- Whether the exponent is negative, and its digits. -/
  exponent : Option (Bool × List Nat)
deriving DecidableEq, Repr

/-- A document as it is written. -/
inductive Syntax where
  | null
  | bool (value : Bool)
  | number (numeral : Numeral)
  | text (pieces : List Piece)
  | array (items : List Syntax)
  | object (members : List (List Piece × Syntax))
deriving Inhabited

namespace Reader

/-- The byte of an ASCII character. -/
abbrev ascii (c : Char) : UInt8 := UInt8.ofNat c.toNat

/-- The white space of the grammar: space, tab, line feed and carriage return. -/
def isSpace (b : UInt8) : Bool := b == 0x20 || b == 0x09 || b == 0x0A || b == 0x0D

/-- The input after its leading white space. -/
def skipSpace (input : Bytes) : Bytes := input.dropWhile isSpace

/-- The value of a decimal digit. -/
def decimalDigit? (b : UInt8) : Option Nat :=
  if 0x30 ≤ b ∧ b ≤ 0x39 then some (b.toNat - 0x30) else none

/-- The value of a hexadecimal digit in either case. -/
def hexDigit? (b : UInt8) : Option Nat :=
  if 0x30 ≤ b ∧ b ≤ 0x39 then some (b.toNat - 0x30)
  else if 0x41 ≤ b ∧ b ≤ 0x46 then some (b.toNat - 0x37)
  else if 0x61 ≤ b ∧ b ≤ 0x66 then some (b.toNat - 0x57)
  else none

/-- The digits at the start of the input. -/
def digits (input : Bytes) : List Nat × Bytes :=
  ((input.takeWhile fun b => (decimalDigit? b).isSome).filterMap decimalDigit?,
    input.dropWhile fun b => (decimalDigit? b).isSome)

/-- The digits of a number before the point: a zero alone, or digits that start with no zero. -/
def whole? (input : Bytes) : Option (List Nat × Bytes) :=
  match digits input with
  | ([], _) => none
  | ([0], rest) => some ([0], rest)
  | (0 :: _, _) => none
  | (found, rest) => some (found, rest)

/-- The digits after a point, if there is a point. -/
def fraction? : Bytes → Option (List Nat × Bytes)
  | 0x2E :: rest =>
    match digits rest with
    | ([], _) => none
    | found => some found
  | input => some ([], input)

/-- The sign and the digits of an exponent, if there is one. -/
def exponent? : Bytes → Option (Option (Bool × List Nat) × Bytes)
  | b :: rest =>
    if b == 0x65 || b == 0x45 then
      let (negative, unsigned) := match rest with
        | 0x2B :: after => (false, after)
        | 0x2D :: after => (true, after)
        | _ => (false, rest)
      match digits unsigned with
      | ([], _) => none
      | (found, after) => some (some (negative, found), after)
    else some (none, b :: rest)
  | [] => some (none, [])

/-- A number. -/
def numeral? (input : Bytes) : Option (Numeral × Bytes) :=
  let (negative, unsigned) := match input with
    | 0x2D :: rest => (true, rest)
    | _ => (false, input)
  match whole? unsigned with
  | none => none
  | some (whole, afterWhole) =>
    match fraction? afterWhole with
    | none => none
    | some (fraction, afterFraction) =>
      match exponent? afterFraction with
      | none => none
      | some (exponent, rest) => some (⟨negative, whole, fraction, exponent⟩, rest)

/-- What the escape of one letter stands for. -/
def escaped? (b : UInt8) : Option UInt8 :=
  if b == ascii '"' || b == ascii '\\' || b == ascii '/' then some b
  else if b == ascii 'b' then some 0x08
  else if b == ascii 'f' then some 0x0C
  else if b == ascii 'n' then some 0x0A
  else if b == ascii 'r' then some 0x0D
  else if b == ascii 't' then some 0x09
  else none

/-- The rest of a string after its opening quote, behind the pieces `before`, which stand in
reverse.  Control characters have to be escaped. -/
def textAfter? (before : List Piece) : Bytes → Option (List Piece × Bytes)
  | [] => none
  | 0x22 :: rest => some (before.reverse, rest)
  | 0x5C :: 0x75 :: a :: b :: c :: d :: rest =>
    match hexDigit? a, hexDigit? b, hexDigit? c, hexDigit? d with
    | some a, some b, some c, some d =>
      textAfter? (.unit (((a * 16 + b) * 16 + c) * 16 + d) :: before) rest
    | _, _, _, _ => none
  | 0x5C :: letter :: rest =>
    match escaped? letter with
    | some value => textAfter? (.byte value :: before) rest
    | none => none
  | b :: rest => if b < 0x20 || b == 0x5C then none else textAfter? (.byte b :: before) rest

/-- The rest of a string after its opening quote. -/
def text? (input : Bytes) : Option (List Piece × Bytes) := textAfter? [] input

mutual

/-- A value with white space in front of it.  Each level of nesting and each item of a list takes
one unit of `fuel`; the length of the input is enough. -/
def value? (fuel : Nat) (input : Bytes) : Option (Syntax × Bytes) :=
  match fuel with
  | 0 => none
  | fuel + 1 =>
    match skipSpace input with
    | [] => none
    | 0x22 :: rest => (text? rest).map fun found => (.text found.1, found.2)
    | 0x5B :: rest =>
      match skipSpace rest with
      | 0x5D :: after => some (.array [], after)
      | items => (items? fuel [] items).map fun found => (.array found.1, found.2)
    | 0x7B :: rest =>
      match skipSpace rest with
      | 0x7D :: after => some (.object [], after)
      | members => (members? fuel [] members).map fun found => (.object found.1, found.2)
    | 0x6E :: 0x75 :: 0x6C :: 0x6C :: rest => some (.null, rest)
    | 0x74 :: 0x72 :: 0x75 :: 0x65 :: rest => some (.bool true, rest)
    | 0x66 :: 0x61 :: 0x6C :: 0x73 :: 0x65 :: rest => some (.bool false, rest)
    | input => (numeral? input).map fun found => (.number found.1, found.2)

/-- The items of an array up to its closing bracket, behind the items `before`, which stand in
reverse. -/
def items? (fuel : Nat) (before : List Syntax) (input : Bytes) : Option (List Syntax × Bytes) :=
  match fuel with
  | 0 => none
  | fuel + 1 =>
    match value? fuel input with
    | none => none
    | some (item, rest) =>
      match skipSpace rest with
      | 0x2C :: more => items? fuel (item :: before) more
      | 0x5D :: after => some ((item :: before).reverse, after)
      | _ => none

/-- The members of an object up to its closing brace, behind the members `before`, which stand in
reverse. -/
def members? (fuel : Nat) (before : List (List Piece × Syntax)) (input : Bytes) :
    Option (List (List Piece × Syntax) × Bytes) :=
  match fuel with
  | 0 => none
  | fuel + 1 =>
    match skipSpace input with
    | 0x22 :: opened =>
      match text? opened with
      | none => none
      | some (name, named) =>
        match skipSpace named with
        | 0x3A :: colon =>
          match value? fuel colon with
          | none => none
          | some (member, rest) =>
            match skipSpace rest with
            | 0x2C :: more => members? fuel ((name, member) :: before) more
            | 0x7D :: after => some (((name, member) :: before).reverse, after)
            | _ => none
        | _ => none
    | _ => none

end

end Reader

/-- Read a document; nothing may follow it but white space. -/
def Syntax.read? (input : Bytes) : Option Syntax :=
  match Reader.value? (2 * input.length + 2) input with
  | none => none
  | some (document, rest) => if (Reader.skipSpace rest).isEmpty then some document else none

end DeviceGateway.Json
