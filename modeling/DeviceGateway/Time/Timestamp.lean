/-
# Time stamps

The text of an instant.  Written, it is in universal time with three digits after the second and the
letter Z; a year outside 0 to 9999 has a sign.  Read, it may have any offset up to 23:59, a lower-case
letter or a space between date and time, a lower-case z, the minus sign U+2212, no digits after the
second or any number of them, of which nine count, and a second 60 in every minute.
-/

import DeviceGateway.Text.Numeral
import DeviceGateway.Time.Instant

namespace DeviceGateway.Time

/-- The text of a year: four digits, and a sign for a year that needs more or lies before year 0. -/
def yearText (year : Int) : String :=
  if 0 ≤ year ∧ year ≤ 9999 then Numeral.padded 4 year.toNat
  else if year < 0 then "-" ++ Numeral.padded 4 year.natAbs
  else "+" ++ Numeral.padded 4 year.natAbs

/-- The text of an instant, truncated to milliseconds. -/
def Instant.toText (instant : Instant) : String :=
  let date := instant.date
  let second := instant.secondOfDay
  let leap := if nanosPerSecond ≤ instant.nanos then 1 else 0
  yearText date.year ++ "-" ++ Numeral.padded 2 date.month ++ "-" ++ Numeral.padded 2 date.day ++
    "T" ++ Numeral.padded 2 (second / 3600) ++ ":" ++ Numeral.padded 2 (second / 60 % 60) ++
    ":" ++ Numeral.padded 2 (second % 60 + leap) ++
    "." ++ Numeral.padded 3 (instant.nanos % nanosPerSecond / 1000000) ++ "Z"

namespace Timestamp

/-- Exactly `count` digits and what follows them. -/
def fixedDigits (count : Nat) (text : List Char) : Option (Nat × List Char) :=
  if (text.take count).length = count then
    (Numeral.digits? (text.take count)).map fun value => (value, text.drop count)
  else none

/-- What follows one expected character. -/
def expect (expected : Char → Bool) : List Char → Option (List Char)
  | c :: rest => if expected c then some rest else none
  | [] => none

/-- The nanoseconds of the digits after a point: nine of them count, any number may stand there. -/
def fractionNanos (digits : List Nat) : Nat :=
  (digits.take 9 ++ List.replicate (9 - digits.length) 0).foldl (fun value d => value * 10 + d) 0

/-- The fraction of a second, if there is a point. -/
def fraction? : List Char → Option (Nat × List Char)
  | '.' :: rest =>
    let digits := (rest.takeWhile Char.isDigit).map fun c => c.toNat - '0'.toNat
    if digits.isEmpty then none
    else some (fractionNanos digits, rest.dropWhile Char.isDigit)
  | text => some (0, text)

/-- Hours and minutes at the end of the text, in seconds. -/
def hoursAndMinutes? (text : List Char) : Option Nat := do
  let (hours, rest) ← fixedDigits 2 text
  let rest ← expect (· == ':') rest
  let (minutes, rest) ← fixedDigits 2 rest
  if rest.isEmpty ∧ hours ≤ 23 ∧ minutes ≤ 59 then some (hours * 3600 + minutes * 60) else none

/-- The offset from universal time in seconds, at the end of the text. -/
def offset? : List Char → Option Int
  | ['Z'] | ['z'] => some 0
  | '+' :: rest => (hoursAndMinutes? rest).map Int.ofNat
  | '-' :: rest | '\u2212' :: rest => (hoursAndMinutes? rest).map fun behind => -Int.ofNat behind
  | _ => none

/-- Read a time stamp. -/
def parse? (text : String) : Option Instant := do
  let (year, rest) ← fixedDigits 4 text.toList
  let rest ← expect (· == '-') rest
  let (month, rest) ← fixedDigits 2 rest
  let rest ← expect (· == '-') rest
  let (day, rest) ← fixedDigits 2 rest
  let rest ← expect (fun c => c == 'T' || c == 't' || c == ' ') rest
  let (hour, rest) ← fixedDigits 2 rest
  let rest ← expect (· == ':') rest
  let (minute, rest) ← fixedDigits 2 rest
  let rest ← expect (· == ':') rest
  let (second, rest) ← fixedDigits 2 rest
  let (nanos, rest) ← fraction? rest
  let offset ← offset? rest
  let date : Date := { year, month, day }
  if date.isValid ∧ hour ≤ 23 ∧ minute ≤ 59 ∧ second ≤ 60 then
    let leap := second = 60
    let wall := date.toDays * 86400 + hour * 3600 + minute * 60 + (if leap then 59 else second)
    Instant.of? (wall - offset) (if leap then nanos + nanosPerSecond else nanos)
  else none

end Timestamp

end DeviceGateway.Time
