/-
# Moments of TOML

A moment is a date, a time of day or both, with or without an offset.  It is kept as its text in one
form: a capital T between date and time, no zeros at the end of the fraction, which has at most nine
digits, and a sign in front of every offset but Z.

A moment stands in a document as a word of its own or as a string under a reserved name.  In a string a
blank may stand for the T, and the day and the offset may reach a little farther.
-/

import DeviceGateway.Text.Numeral
import DeviceGateway.Time.Calendar
import DeviceGateway.Time.Timestamp

namespace DeviceGateway.Toml.Moment

/-- How far the numbers of a moment may go. -/
structure Bounds where
  /-- The last hour of a day. -/
  hour : Nat
  /-- The most hours of an offset. -/
  offsetHours : Nat
  /-- The most minutes of an offset besides its hours. -/
  offsetMinutes : Nat

/-- The bounds of a moment that is a word. -/
def Bounds.word : Bounds := ⟨23, 23, 59⟩

/-- The bounds of a moment that is a string. -/
def Bounds.string : Bounds := ⟨24, 99, 99⟩

/-- The most minutes of an offset in all, which are those of a day. -/
def greatestOffset : Nat := 1440

/-- A number of two digits up to a greatest value. -/
def bounded? (greatest : Nat) (text : List Char) : Option (Nat × List Char) :=
  (Time.Timestamp.fixedDigits 2 text).filter fun found => found.1 ≤ greatest

/-- A number of two digits after one expected character. -/
def afterMark? (mark : Char) (greatest : Nat) (text : List Char) : Option (Nat × List Char) := do
  let rest ← Time.Timestamp.expect (· == mark) text
  bounded? greatest rest

/-- A number written with two digits. -/
def two (value : Nat) : String := Numeral.padded 2 value

/-- A date, which has to be in the calendar. -/
def date? (text : List Char) : Option (String × List Char) := do
  let (year, rest) ← Time.Timestamp.fixedDigits 4 text
  let (month, rest) ← afterMark? '-' 12 rest
  let (day, rest) ← afterMark? '-' 31 rest
  if (Time.Date.mk year month day).isValid then
    return (Numeral.padded 4 year ++ "-" ++ two month ++ "-" ++ two day, rest)
  else none

/-- The fraction of a second as its text, empty where it is zero. -/
def fraction? : List Char → Option (String × List Char)
  | '.' :: rest =>
    match rest.takeWhile Char.isDigit with
    | [] => none
    | digits =>
      let kept := ((digits.take 9).reverse.dropWhile (· == '0')).reverse
      some (String.ofList (if kept.isEmpty then [] else '.' :: kept),
        rest.dropWhile Char.isDigit)
  | text => some ("", text)

/-- A time of day; the second may be a leap second. -/
def time? (bounds : Bounds) (text : List Char) : Option (String × List Char) := do
  let (hour, rest) ← bounded? bounds.hour text
  let (minute, rest) ← afterMark? ':' 59 rest
  let (second, rest) ← afterMark? ':' 60 rest
  let (fraction, rest) ← fraction? rest
  return (two hour ++ ":" ++ two minute ++ ":" ++ two second ++ fraction, rest)

/-- An offset at the end of a moment; there may be none.  No offset at all has a plus sign. -/
def offset? (bounds : Bounds) : List Char → Option String
  | [] => some ""
  | ['Z'] | ['z'] => some "Z"
  | sign :: rest => do
    let (hours, rest) ← bounded? bounds.offsetHours rest
    let (minutes, rest) ← afterMark? ':' bounds.offsetMinutes rest
    let total := 60 * hours + minutes
    let written := two (total / 60) ++ ":" ++ two (total % 60)
    if !rest.isEmpty ∨ greatestOffset < total then none
    else if sign = '+' ∨ sign = '-' ∧ total = 0 then return "+" ++ written
    else if sign = '-' then return "-" ++ written
    else none

/-- Whether a character may stand between date and time. -/
def isDivider (c : Char) : Bool := c == 'T' || c == 't' || c == ' '

/-- A moment as its text. -/
def read? (bounds : Bounds) (text : List Char) : Option String :=
  match date? text with
  | some (date, []) => some date
  | some (date, mark :: rest) => do
    if isDivider mark then
      let (time, rest) ← time? bounds rest
      return date ++ "T" ++ time ++ (← offset? bounds rest)
    else none
  | none =>
    match time? bounds text with
    | some (time, []) => some time
    | _ => none

/-- The name under which a string stands for a moment. -/
def reservedName : String := "$__toml_private_datetime"

end DeviceGateway.Toml.Moment
