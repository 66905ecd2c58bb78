/-
# What a time stamp denotes

A time stamp is taken apart into a date, a time of day, a fraction and a zone.  `Denotes` says which
instant they come to, for every way of writing them: the letter or the space between date and time, any
number of digits after the second, and the zones east and west of universal time.  Reading accepts just
the time stamps whose year has four digits, and finds the instant that they denote; writing an instant
gives a time stamp that denotes it, but for what is below the millisecond.
-/

import DeviceGateway.Proofs.Text.Numeral
import DeviceGateway.Proofs.Text.Split
import DeviceGateway.Proofs.Time.Calendar
import DeviceGateway.Time.Timestamp
import Mathlib.Data.List.TakeWhile

namespace DeviceGateway.Time

open Numeral

/-- The written forms of the fraction of a second, with their nanoseconds. -/
inductive Fraction : List Char → Nat → Prop
  | absent : Fraction [] 0
  | point {digits : List Char} (filled : digits ≠ []) (decimal : AllDigits digits) :
      Fraction ('.' :: digits)
        (Timestamp.fractionNanos (digits.map fun c => c.toNat - '0'.toNat))

/-- The written form of an offset without its sign. -/
def offsetText (hours minutes : Nat) : List Char :=
  (padded 2 hours).toList ++ ':' :: (padded 2 minutes).toList

/-- The written forms of a zone, with the seconds by which it is ahead of universal time. -/
inductive Zone : List Char → Int → Prop
  | upper : Zone ['Z'] 0
  | lower : Zone ['z'] 0
  | east {hours minutes : Nat} (hour : hours ≤ 23) (minute : minutes ≤ 59) :
      Zone ('+' :: offsetText hours minutes) (hours * 3600 + minutes * 60 : Nat)
  | west {sign : Char} {hours minutes : Nat} (minus : sign = '-' ∨ sign = '\u2212')
      (hour : hours ≤ 23) (minute : minutes ≤ 59) :
      Zone (sign :: offsetText hours minutes) (-(hours * 3600 + minutes * 60 : Nat))

/-- The parts of a time stamp. -/
structure Stamp where
  date : Date
  /-- What stands between date and time. -/
  separator : Char
  hour : Nat
  minute : Nat
  /-- The second of the minute; 60 is a leap second. -/
  second : Nat
  fraction : List Char
  nanos : Nat
  zone : List Char
  /-- The seconds by which the zone is ahead of universal time. -/
  offset : Int

namespace Stamp

/-- The parts exist and mean what they say. -/
structure IsValid (stamp : Stamp) : Prop where
  date : stamp.date.isValid = true
  separator : stamp.separator = 'T' ∨ stamp.separator = 't' ∨ stamp.separator = ' '
  hour : stamp.hour ≤ 23
  minute : stamp.minute ≤ 59
  second : stamp.second ≤ 60
  fraction : Fraction stamp.fraction stamp.nanos
  zone : Zone stamp.zone stamp.offset

/-- The text of a time stamp. -/
def text (stamp : Stamp) : List Char :=
  (yearText stamp.date.year).toList ++ '-' :: ((padded 2 stamp.date.month).toList ++
    '-' :: ((padded 2 stamp.date.day).toList ++ stamp.separator :: ((padded 2 stamp.hour).toList ++
      ':' :: ((padded 2 stamp.minute).toList ++ ':' :: ((padded 2 stamp.second).toList ++
        (stamp.fraction ++ stamp.zone))))))

/-- The seconds since the beginning of 1970; a leap second belongs to the second before it. -/
def seconds (stamp : Stamp) : Int :=
  stamp.date.toDays * 86400 + stamp.hour * 3600 + stamp.minute * 60 +
    (if stamp.second = 60 then 59 else stamp.second : Nat) - stamp.offset

/-- The nanoseconds after them. -/
def nanoseconds (stamp : Stamp) : Nat :=
  stamp.nanos + if stamp.second = 60 then nanosPerSecond else 0

end Stamp

/-- A text is a time stamp of an instant. -/
def Denotes (text : String) (instant : Instant) : Prop :=
  ∃ stamp : Stamp, stamp.IsValid ∧ text.toList = stamp.text ∧ instant.seconds = stamp.seconds ∧
    instant.nanos = stamp.nanoseconds

namespace Timestamp

/-! ## The parts are read as they are written -/

theorem fixedDigits_eq_some_iff {count value : Nat} {text rest : List Char} (positive : 0 < count) :
    fixedDigits count text = some (value, rest) ↔
      value < 10 ^ count ∧ (padded count value).toList ++ rest = text := by
  unfold fixedDigits
  split
  case isTrue whole =>
    rw [Option.map_eq_some_iff]
    constructor
    · rintro ⟨found, read, same⟩
      obtain ⟨rfl, rfl⟩ := Prod.mk.inj same
      obtain ⟨filled, digits, rfl⟩ := digits?_eq_some_iff.1 read
      have below := value_lt digits
      have written := padded_value digits filled
      rw [whole] at below written
      refine ⟨below, ?_⟩
      rw [written, List.take_append_drop]
    · intro ⟨below, same⟩
      have length := length_padded positive below
      rw [← same, List.take_left' length, List.drop_left' length]
      refine ⟨value, digits?_eq_some_iff.2 ⟨?_, allDigits_padded count value, value_padded ..⟩, rfl⟩
      intro empty
      rw [empty] at length
      cases length
      exact Nat.lt_irrefl 0 positive
  case isFalse short =>
    refine ⟨nofun, ?_⟩
    intro ⟨below, same⟩
    have length := length_padded positive below
    rw [← same, List.take_left' length] at short
    exact absurd length short

theorem expect_eq_some_iff {expected : Char → Bool} {text rest : List Char} :
    expect expected text = some rest ↔ ∃ c, expected c = true ∧ text = c :: rest := by
  cases text with
  | nil => simp [expect]
  | cons c more =>
    simp only [expect, Option.ite_none_right_eq_some, Option.some.injEq, List.cons.injEq]
    constructor
    · rintro ⟨found, rfl⟩
      exact ⟨c, found, rfl, rfl⟩
    · rintro ⟨_, found, rfl, rfl⟩
      exact ⟨found, rfl⟩

/-- Two digits are read where they were written. -/
theorem fixedDigits_padded {value : Nat} (small : value < 100) (rest : List Char) :
    fixedDigits 2 ((padded 2 value).toList ++ rest) = some (value, rest) :=
  (fixedDigits_eq_some_iff Nat.two_pos).2 ⟨small, rfl⟩

theorem hoursAndMinutes?_eq_some_iff {text : List Char} {seconds : Nat} :
    hoursAndMinutes? text = some seconds ↔ ∃ hours minutes, hours ≤ 23 ∧ minutes ≤ 59 ∧
      offsetText hours minutes = text ∧ seconds = hours * 3600 + minutes * 60 := by
  constructor
  · intro found
    simp only [hoursAndMinutes?, Option.bind_eq_bind, Option.bind_eq_some_iff, Prod.exists,
      Option.ite_none_right_eq_some, List.isEmpty_iff, Option.some.injEq] at found
    obtain ⟨hours, afterHours, first, afterColon, colon, minutes, after, second,
      ⟨rfl, hour, minute⟩, rfl⟩ := found
    obtain rfl := ((fixedDigits_eq_some_iff Nat.two_pos).1 first).2
    obtain ⟨_, separated, rfl⟩ := expect_eq_some_iff.1 colon
    obtain rfl := ((fixedDigits_eq_some_iff Nat.two_pos).1 second).2
    obtain rfl := beq_iff_eq.1 separated
    exact ⟨hours, minutes, hour, minute, by rw [List.append_nil, offsetText], rfl⟩
  · rintro ⟨hours, minutes, hour, minute, rfl, rfl⟩
    have first := fixedDigits_padded (show hours < 100 by omega)
    have second := fixedDigits_padded (show minutes < 100 by omega) []
    rw [List.append_nil] at second
    simp [hoursAndMinutes?, offsetText, first, second, expect, hour, minute]

theorem offset?_eq_some_iff {text : List Char} {offset : Int} :
    offset? text = some offset ↔ Zone text offset := by
  constructor
  · intro found
    unfold offset? at found
    split at found
    case h_1 => cases found; exact .upper
    case h_2 => cases found; exact .lower
    case h_3 rest =>
      obtain ⟨seconds, read, rfl⟩ := Option.map_eq_some_iff.1 found
      obtain ⟨hours, minutes, hour, minute, rfl, rfl⟩ := hoursAndMinutes?_eq_some_iff.1 read
      exact .east hour minute
    case h_4 rest =>
      obtain ⟨seconds, read, rfl⟩ := Option.map_eq_some_iff.1 found
      obtain ⟨hours, minutes, hour, minute, rfl, rfl⟩ := hoursAndMinutes?_eq_some_iff.1 read
      exact .west (.inl rfl) hour minute
    case h_5 rest =>
      obtain ⟨seconds, read, rfl⟩ := Option.map_eq_some_iff.1 found
      obtain ⟨hours, minutes, hour, minute, rfl, rfl⟩ := hoursAndMinutes?_eq_some_iff.1 read
      exact .west (.inr rfl) hour minute
    case h_6 => cases found
  · intro zone
    cases zone with
    | upper | lower => rfl
    | east hour minute =>
      have read := hoursAndMinutes?_eq_some_iff.2 ⟨_, _, hour, minute, rfl, rfl⟩
      simp [offset?, read]
    | west minus hour minute =>
      have read := hoursAndMinutes?_eq_some_iff.2 ⟨_, _, hour, minute, rfl, rfl⟩
      rcases minus with rfl | rfl <;> simp [offset?, read]

/-- A zone begins with no digit and no point. -/
theorem zone_head {text : List Char} {offset : Int} (zone : Zone text offset) :
    ∃ c rest, text = c :: rest ∧ c.isDigit = false ∧ c ≠ '.' := by
  cases zone with
  | upper | lower | east => exact ⟨_, _, rfl, rfl, by decide⟩
  | west minus => rcases minus with rfl | rfl <;> exact ⟨_, _, rfl, rfl, by decide⟩

/-- Before a zone, a fraction is read as it is written. -/
theorem fraction?_eq_some_iff {text zone : List Char} {nanos : Nat} {offset : Int}
    (isZone : Zone zone offset) :
    fraction? text = some (nanos, zone) ↔
      ∃ fraction, Fraction fraction nanos ∧ fraction ++ zone = text := by
  obtain ⟨c, rest, rfl, noDigit, noPoint⟩ := zone_head isZone
  constructor
  · intro found
    unfold fraction? at found
    split at found
    case h_1 after =>
      simp only [Option.ite_none_left_eq_some, List.isEmpty_iff, List.map_eq_nil_iff,
        Option.some.injEq, Prod.mk.injEq] at found
      obtain ⟨filled, rfl, dropped⟩ := found
      refine ⟨'.' :: after.takeWhile Char.isDigit, .point filled ?_, ?_⟩
      · exact fun d member => List.mem_takeWhile_imp member
      · rw [← dropped, List.cons_append, List.takeWhile_append_dropWhile]
    case h_2 =>
      obtain ⟨rfl, rfl⟩ := Prod.mk.inj (Option.some.inj found)
      exact ⟨[], .absent, rfl⟩
  · rintro ⟨fraction, written, rfl⟩
    cases written with
    | absent =>
      rw [List.nil_append]
      unfold fraction?
      split
      case h_1 after same => exact absurd (List.cons.inj same).1 noPoint
      case h_2 => rfl
    | @point digits filled decimal =>
      have taken : (digits ++ c :: rest).takeWhile Char.isDigit = digits := by
        rw [List.takeWhile_append_of_pos decimal, List.takeWhile_cons_of_neg (by simp [noDigit]),
          List.append_nil]
      have dropped : (digits ++ c :: rest).dropWhile Char.isDigit = c :: rest := by
        rw [List.dropWhile_append_of_pos decimal, List.dropWhile_cons_of_neg (by simp [noDigit])]
      simp [fraction?, taken, dropped, filled]

end Timestamp

/-- The instant with given seconds and nanoseconds. -/
theorem Instant.of?_eq_some_iff {seconds : Int} {nanos : Nat} {instant : Instant} :
    Instant.of? seconds nanos = some instant ↔
      instant.seconds = seconds ∧ instant.nanos = nanos := by
  unfold Instant.of?
  constructor
  · intro found
    split at found
    case isTrue =>
      obtain rfl := Option.some.inj found
      exact ⟨rfl, rfl⟩
    case isFalse => cases found
  · rintro ⟨rfl, rfl⟩
    exact dif_pos ⟨instant.nanos_lt, instant.leap_at_end⟩

theorem yearText_of_within {year : Nat} (within : year < 10000) :
    yearText year = padded 4 year := by
  rw [yearText, if_pos ⟨by omega, by omega⟩, Int.toNat_natCast]

namespace Timestamp

/-- What is read is a time stamp whose year has four digits. -/
theorem exists_stamp_of_parse? {text : String} {instant : Instant} (found : parse? text = some instant) :
    ∃ stamp : Stamp, stamp.IsValid ∧
      (0 ≤ stamp.date.year ∧ stamp.date.year ≤ 9999) ∧ text.toList = stamp.text ∧
        instant.seconds = stamp.seconds ∧ instant.nanos = stamp.nanoseconds := by
  -- One part of the text after the other.
  obtain ⟨⟨year, rest⟩, years, found⟩ := Option.bind_eq_some_iff.1 found
  obtain ⟨rest, dash, found⟩ := Option.bind_eq_some_iff.1 found
  obtain ⟨⟨month, rest⟩, months, found⟩ := Option.bind_eq_some_iff.1 found
  obtain ⟨rest, dash', found⟩ := Option.bind_eq_some_iff.1 found
  obtain ⟨⟨day, rest⟩, days, found⟩ := Option.bind_eq_some_iff.1 found
  obtain ⟨rest, between, found⟩ := Option.bind_eq_some_iff.1 found
  obtain ⟨⟨hour, rest⟩, hours, found⟩ := Option.bind_eq_some_iff.1 found
  obtain ⟨rest, colon, found⟩ := Option.bind_eq_some_iff.1 found
  obtain ⟨⟨minute, rest⟩, minutes, found⟩ := Option.bind_eq_some_iff.1 found
  obtain ⟨rest, colon', found⟩ := Option.bind_eq_some_iff.1 found
  obtain ⟨⟨second, rest⟩, seconds, found⟩ := Option.bind_eq_some_iff.1 found
  obtain ⟨⟨nanos, zone⟩, fractions, found⟩ := Option.bind_eq_some_iff.1 found
  obtain ⟨offset, zones, found⟩ := Option.bind_eq_some_iff.1 found
  obtain ⟨⟨valid, hour', minute', second'⟩, last⟩ := Option.ite_none_right_eq_some.1 found
  have small := ((fixedDigits_eq_some_iff (by decide)).1 years).1
  have whole := ((fixedDigits_eq_some_iff (by decide)).1 years).2
  obtain ⟨_, isDash, rfl⟩ := expect_eq_some_iff.1 dash
  obtain rfl := ((fixedDigits_eq_some_iff Nat.two_pos).1 months).2
  obtain ⟨_, isDash', rfl⟩ := expect_eq_some_iff.1 dash'
  obtain rfl := ((fixedDigits_eq_some_iff Nat.two_pos).1 days).2
  obtain ⟨separator, isSeparator, rfl⟩ := expect_eq_some_iff.1 between
  obtain rfl := ((fixedDigits_eq_some_iff Nat.two_pos).1 hours).2
  obtain ⟨_, isColon, rfl⟩ := expect_eq_some_iff.1 colon
  obtain rfl := ((fixedDigits_eq_some_iff Nat.two_pos).1 minutes).2
  obtain ⟨_, isColon', rfl⟩ := expect_eq_some_iff.1 colon'
  obtain rfl := ((fixedDigits_eq_some_iff Nat.two_pos).1 seconds).2
  have isZone := offset?_eq_some_iff.1 zones
  obtain ⟨fraction, isFraction, rfl⟩ := (fraction?_eq_some_iff isZone).1 fractions
  obtain rfl := beq_iff_eq.1 isDash
  obtain rfl := beq_iff_eq.1 isDash'
  obtain rfl := beq_iff_eq.1 isColon
  obtain rfl := beq_iff_eq.1 isColon'
  obtain ⟨moment, late⟩ := Instant.of?_eq_some_iff.1 last
  refine ⟨⟨⟨year, month, day⟩, separator, hour, minute, second, fraction, nanos, zone, offset⟩,
    ⟨valid, ?_, hour', minute', second', isFraction, isZone⟩,
    ⟨Int.natCast_nonneg year, Int.ofNat_le.2 (Nat.le_of_lt_succ small)⟩, ?_, ?_, ?_⟩
  · simpa [or_assoc] using isSeparator
  · rw [← whole, Stamp.text, yearText_of_within small]
  · rw [moment, Stamp.seconds]
  · rw [late, Stamp.nanoseconds]
    split <;> simp

/-- Every such time stamp is read. -/
theorem parse?_of_stamp {text : String} {instant : Instant} {stamp : Stamp} (valid : stamp.IsValid)
    (low : 0 ≤ stamp.date.year) (high : stamp.date.year ≤ 9999) (whole : text.toList = stamp.text)
    (moment : instant.seconds = stamp.seconds) (late : instant.nanos = stamp.nanoseconds) :
    parse? text = some instant := by
  obtain ⟨⟨year, month, day⟩, separator, hour, minute, second, fraction, nanos, zone, offset⟩ := stamp
  obtain ⟨year, rfl⟩ := Int.eq_ofNat_of_zero_le low
  have small : year < 10000 := Nat.lt_succ_of_le (Int.ofNat_le.1 high)
  have lastMonth : month ≤ 12 := (Date.isValid_iff.1 valid.date).2.1
  have lastDay : day ≤ 31 :=
    Nat.le_trans (Date.isValid_iff.1 valid.date).2.2.2 (monthLength_le ..)
  have lastHour : hour ≤ 23 := valid.hour
  have lastMinute : minute ≤ 59 := valid.minute
  have lastSecond : second ≤ 60 := valid.second
  have between : separator = 'T' ∨ separator = 't' ∨ separator = ' ' := valid.separator
  have isZone : Zone zone offset := valid.zone
  simp only [Stamp.text, yearText_of_within small] at whole
  simp only [Stamp.seconds] at moment
  simp only [Stamp.nanoseconds] at late
  have separated : (separator == 'T' || separator == 't' || separator == ' ') = true := by
    simpa [or_assoc] using between
  refine Option.bind_eq_some_iff.2 ⟨(year, _),
    (fixedDigits_eq_some_iff (by decide)).2 ⟨small, whole.symm⟩, ?_⟩
  refine Option.bind_eq_some_iff.2 ⟨_, expect_eq_some_iff.2 ⟨_, rfl, rfl⟩, ?_⟩
  refine Option.bind_eq_some_iff.2 ⟨(month, _), fixedDigits_padded (by omega) _, ?_⟩
  refine Option.bind_eq_some_iff.2 ⟨_, expect_eq_some_iff.2 ⟨_, rfl, rfl⟩, ?_⟩
  refine Option.bind_eq_some_iff.2 ⟨(day, _), fixedDigits_padded (by omega) _, ?_⟩
  refine Option.bind_eq_some_iff.2 ⟨_, expect_eq_some_iff.2 ⟨separator, separated, rfl⟩, ?_⟩
  refine Option.bind_eq_some_iff.2 ⟨(hour, _), fixedDigits_padded (by omega) _, ?_⟩
  refine Option.bind_eq_some_iff.2 ⟨_, expect_eq_some_iff.2 ⟨_, rfl, rfl⟩, ?_⟩
  refine Option.bind_eq_some_iff.2 ⟨(minute, _), fixedDigits_padded (by omega) _, ?_⟩
  refine Option.bind_eq_some_iff.2 ⟨_, expect_eq_some_iff.2 ⟨_, rfl, rfl⟩, ?_⟩
  refine Option.bind_eq_some_iff.2 ⟨(second, _), fixedDigits_padded (by omega) _, ?_⟩
  refine Option.bind_eq_some_iff.2 ⟨(nanos, zone),
    (fraction?_eq_some_iff isZone).2 ⟨fraction, valid.fraction, rfl⟩, ?_⟩
  refine Option.bind_eq_some_iff.2 ⟨offset, offset?_eq_some_iff.2 isZone, ?_⟩
  refine Option.ite_none_right_eq_some.2 ⟨⟨valid.date, lastHour, lastMinute, lastSecond⟩,
    Instant.of?_eq_some_iff.2 ⟨moment, ?_⟩⟩
  rw [late]
  split <;> simp

/-- Reading accepts just the time stamps whose year has four digits, and finds the instant that they
denote. -/
theorem parse?_eq_some_iff {text : String} {instant : Instant} :
    parse? text = some instant ↔ ∃ stamp : Stamp, stamp.IsValid ∧
      (0 ≤ stamp.date.year ∧ stamp.date.year ≤ 9999) ∧ text.toList = stamp.text ∧
        instant.seconds = stamp.seconds ∧ instant.nanos = stamp.nanoseconds := by
  constructor
  · exact exists_stamp_of_parse?
  · rintro ⟨stamp, valid, ⟨low, high⟩, whole, moment, late⟩
    exact parse?_of_stamp valid low high whole moment late

/-! ## A text is a time stamp in one way only -/

theorem append_padded_inj {value value' : Nat} {rest rest' : List Char} (small : value < 100)
    (small' : value' < 100)
    (same : (padded 2 value).toList ++ rest = (padded 2 value').toList ++ rest') :
    value = value' ∧ rest = rest' := by
  have read := fixedDigits_padded small rest
  rw [same, fixedDigits_padded small'] at read
  obtain ⟨rfl, rfl⟩ := Prod.mk.inj (Option.some.inj read)
  exact ⟨rfl, rfl⟩

/-- The sign of a year. -/
def yearSign (year : Int) : List Char :=
  if 0 ≤ year ∧ year ≤ 9999 then [] else if year < 0 then ['-'] else ['+']

theorem toList_yearText (year : Int) :
    (yearText year).toList = yearSign year ++ (padded 4 year.natAbs).toList := by
  unfold yearText yearSign
  split
  case isTrue within =>
    rw [show year.toNat = year.natAbs by omega, List.nil_append]
  case isFalse =>
    split
    case isTrue => exact String.toList_append
    case isFalse => exact String.toList_append

theorem eq_of_yearSign_eq {year year' : Int} (sign : yearSign year = yearSign year')
    (size : year.natAbs = year'.natAbs) : year = year' := by
  have negative : ∀ year, yearSign year = ['-'] ↔ year < 0 := by
    intro year
    unfold yearSign
    split
    case isTrue within => exact iff_of_false nofun (by omega)
    case isFalse => split <;> simp_all
  have alike := (negative year).symm.trans (sign ▸ negative year')
  omega

/-- The sign ends where the first digit stands. -/
theorem takeWhile_yearText (year : Int) (rest : List Char) :
    ((yearText year).toList ++ rest).takeWhile (fun c => !c.isDigit) = yearSign year := by
  have signed : ∀ c ∈ yearSign year, (!c.isDigit) = true := by
    unfold yearSign
    split
    · exact nofun
    · split <;> exact fun c sign => by rw [List.mem_singleton.1 sign]; rfl
  rw [toList_yearText, List.append_assoc, List.takeWhile_append_of_pos signed]
  cases digits : (padded 4 year.natAbs).toList with
  | nil => exact absurd digits (padded_ne_nil _ _)
  | cons c more =>
    have isDigit := allDigits_padded 4 year.natAbs c (by rw [digits]; exact List.mem_cons_self)
    rw [List.cons_append, List.takeWhile_cons_of_neg (by simp [isDigit]), List.append_nil]

theorem append_yearText_inj {year year' : Int} {rest rest' : List Char}
    (same : (yearText year).toList ++ '-' :: rest = (yearText year').toList ++ '-' :: rest') :
    year = year' ∧ rest = rest' := by
  have sign := takeWhile_yearText year ('-' :: rest)
  rw [same, takeWhile_yearText] at sign
  rw [toList_yearText, toList_yearText, sign, List.append_assoc, List.append_assoc,
    List.append_cancel_left_eq] at same
  have plain : ∀ n, '-' ∉ (padded 4 n).toList := fun n member =>
    absurd (allDigits_padded 4 n _ member) (by decide)
  obtain ⟨digits, rest⟩ := Text.append_separator_inj same (plain _) (plain _)
  have size := value_padded 4 year.natAbs
  rw [digits, value_padded] at size
  exact ⟨eq_of_yearSign_eq sign.symm size.symm, rest⟩

end Timestamp

/-- The parts of a time stamp are those that its text shows. -/
theorem Stamp.eq_of_text_eq {stamp other : Stamp} (valid : stamp.IsValid) (valid' : other.IsValid)
    (same : stamp.text = other.text) : stamp = other := by
  obtain ⟨⟨year, month, day⟩, separator, hour, minute, second, fraction, nanos, zone, offset⟩ := stamp
  obtain ⟨⟨year', month', day'⟩, separator', hour', minute', second', fraction', nanos', zone',
    offset'⟩ := other
  have lastMonth : month ≤ 12 ∧ month' ≤ 12 :=
    ⟨(Date.isValid_iff.1 valid.date).2.1, (Date.isValid_iff.1 valid'.date).2.1⟩
  have lastDay : day ≤ 31 ∧ day' ≤ 31 :=
    ⟨Nat.le_trans (Date.isValid_iff.1 valid.date).2.2.2 (monthLength_le ..),
      Nat.le_trans (Date.isValid_iff.1 valid'.date).2.2.2 (monthLength_le ..)⟩
  have lastHour : hour ≤ 23 ∧ hour' ≤ 23 := ⟨valid.hour, valid'.hour⟩
  have lastMinute : minute ≤ 59 ∧ minute' ≤ 59 := ⟨valid.minute, valid'.minute⟩
  have lastSecond : second ≤ 60 ∧ second' ≤ 60 := ⟨valid.second, valid'.second⟩
  simp only [Stamp.text] at same
  obtain ⟨rfl, afterYear⟩ := Timestamp.append_yearText_inj same
  obtain ⟨rfl, afterMonth⟩ := Timestamp.append_padded_inj (by omega) (by omega) afterYear
  obtain ⟨rfl, afterDay⟩ := Timestamp.append_padded_inj (by omega) (by omega)
    (List.tail_eq_of_cons_eq afterMonth)
  obtain ⟨rfl, time⟩ := List.cons.inj afterDay
  obtain ⟨rfl, afterHour⟩ := Timestamp.append_padded_inj (by omega) (by omega) time
  obtain ⟨rfl, afterMinute⟩ := Timestamp.append_padded_inj (by omega) (by omega)
    (List.tail_eq_of_cons_eq afterHour)
  obtain ⟨rfl, afterSecond⟩ := Timestamp.append_padded_inj (by omega) (by omega)
    (List.tail_eq_of_cons_eq afterMinute)
  have isZone : Zone zone offset := valid.zone
  have isZone' : Zone zone' offset' := valid'.zone
  have read := (Timestamp.fraction?_eq_some_iff isZone).2 ⟨fraction, valid.fraction, rfl⟩
  rw [afterSecond, (Timestamp.fraction?_eq_some_iff isZone').2 ⟨fraction', valid'.fraction, rfl⟩]
    at read
  obtain ⟨rfl, rfl⟩ := Prod.mk.inj (Option.some.inj read)
  obtain rfl := List.append_cancel_right afterSecond
  have ahead := Timestamp.offset?_eq_some_iff.2 isZone
  rw [Timestamp.offset?_eq_some_iff.2 isZone'] at ahead
  obtain rfl := Option.some.inj ahead
  rfl

/-- A text denotes one instant at most. -/
theorem Denotes.unique {text : String} {first second : Instant} (one : Denotes text first)
    (other : Denotes text second) : first = second := by
  obtain ⟨stamp, valid, written, seconds, nanos⟩ := one
  obtain ⟨stamp', valid', written', seconds', nanos'⟩ := other
  obtain rfl := Stamp.eq_of_text_eq valid valid' (written.symm.trans written')
  have found := Instant.of?_eq_some_iff.2 ⟨seconds, nanos⟩
  rw [Instant.of?_eq_some_iff.2 ⟨seconds', nanos'⟩] at found
  exact (Option.some.inj found).symm

/-- Whether a text denotes this instant and no other. -/
def Means (text : String) (instant : Instant) : Prop := ∀ other, Denotes text other ↔ other = instant

theorem Denotes.means {text : String} {instant : Instant} (denotes : Denotes text instant) :
    Means text instant :=
  fun _ => ⟨fun other => other.unique denotes, fun same => same ▸ denotes⟩

namespace Timestamp

theorem denotes_of_parse? {text : String} {instant : Instant} (found : parse? text = some instant) :
    Denotes text instant := by
  obtain ⟨stamp, valid, _, denoted⟩ := parse?_eq_some_iff.1 found
  exact ⟨stamp, valid, denoted⟩

theorem foldl_replicate_zero (value count : Nat) :
    (List.replicate count 0).foldl (fun value d => value * 10 + d) value = value * 10 ^ count := by
  induction count generalizing value with
  | zero => simp
  | succ count ih =>
    rw [List.replicate_succ, List.foldl_cons, ih]
    ring

/-- Up to nine digits after the point count in full. -/
theorem fractionNanos_of_short {digits : List Char} (short : digits.length ≤ 9) :
    fractionNanos (digits.map fun c => c.toNat - '0'.toNat) =
      Nat.ofDigitChars 10 digits 0 * 10 ^ (9 - digits.length) := by
  have whole : (digits.map fun c => c.toNat - '0'.toNat).take 9 =
      digits.map fun c => c.toNat - '0'.toNat := List.take_of_length_le (by simpa using short)
  rw [fractionNanos, whole, List.foldl_append, foldl_replicate_zero, List.foldl_map,
    List.length_map, Nat.ofDigitChars]
  simp only [Nat.mul_comm]

end Timestamp

namespace Instant

theorem secondOfDay_lt (instant : Instant) : instant.secondOfDay < 86400 := by
  unfold secondOfDay
  omega

theorem secondOfDay_eq (instant : Instant) :
    instant.seconds / 86400 * 86400 + instant.secondOfDay = instant.seconds := by
  unfold secondOfDay
  omega

/-- The second of the minute as it is written: a leap second is the second 60. -/
def secondOfMinute (instant : Instant) : Nat :=
  instant.secondOfDay % 60 + if nanosPerSecond ≤ instant.nanos then 1 else 0

/-- The parts of the text of an instant. -/
def stamp (instant : Instant) : Stamp where
  date := instant.date
  separator := 'T'
  hour := instant.secondOfDay / 3600
  minute := instant.secondOfDay / 60 % 60
  second := instant.secondOfMinute
  fraction := '.' :: (padded 3 (instant.nanos % nanosPerSecond / 1000000)).toList
  nanos := instant.nanos % nanosPerSecond / 1000000 * 1000000
  zone := ['Z']
  offset := 0

theorem toList_toText (instant : Instant) : instant.toText.toList = instant.stamp.text := by
  simp only [toText, Stamp.text, stamp, secondOfMinute, String.toList_append]
  simp

/-- A leap second is written as the second 60, and no other second is. -/
theorem leap_cases (instant : Instant) :
    instant.nanos < nanosPerSecond ∧ instant.secondOfMinute = instant.secondOfDay % 60 ∨
      nanosPerSecond ≤ instant.nanos ∧ instant.secondOfMinute = 60 ∧
        instant.secondOfDay % 60 = 59 := by
  unfold secondOfMinute
  split
  case isTrue late =>
    have last := instant.leap_at_end late
    have same : instant.secondOfDay % 60 = 59 := by
      unfold secondOfDay
      omega
    exact .inr ⟨late, by rw [same], same⟩
  case isFalse early => exact .inl ⟨Nat.lt_of_not_le early, Nat.add_zero _⟩

theorem isValid_stamp (instant : Instant) : instant.stamp.IsValid where
  date := Date.isValid_ofDays _
  separator := .inl rfl
  hour := by
    have := instant.secondOfDay_lt
    show instant.secondOfDay / 3600 ≤ 23
    omega
  minute := by
    show instant.secondOfDay / 60 % 60 ≤ 59
    omega
  second := by
    show instant.secondOfMinute ≤ 60
    rcases instant.leap_cases with ⟨_, plain⟩ | ⟨_, leap, _⟩ <;> omega
  fraction := by
    have below : instant.nanos % nanosPerSecond < 1000000000 := Nat.mod_lt _ (by decide)
    have small : instant.nanos % nanosPerSecond / 1000000 < 10 ^ 3 := by omega
    have length := length_padded (by decide) small
    have value := Timestamp.fractionNanos_of_short (Nat.le_trans (Nat.le_of_eq length) (by decide))
    rw [value_padded, length] at value
    show Fraction ('.' :: _) (_ * 10 ^ (9 - 3))
    rw [← value]
    refine .point ?_ (allDigits_padded 3 _)
    exact List.ne_nil_of_length_pos (by rw [length]; decide)
  zone := .upper

/-- The text of an instant denotes it, but for what is below the millisecond. -/
theorem stamp_eq (instant : Instant) : instant.truncateToMillis.seconds = instant.stamp.seconds ∧
    instant.truncateToMillis.nanos = instant.stamp.nanoseconds := by
  have days : instant.stamp.date.toDays = instant.seconds / 86400 := Date.toDays_ofDays _
  have hour : instant.stamp.hour = instant.secondOfDay / 3600 := rfl
  have minute : instant.stamp.minute = instant.secondOfDay / 60 % 60 := rfl
  have second : instant.stamp.second = instant.secondOfMinute := rfl
  have offset : instant.stamp.offset = 0 := rfl
  have nanos : instant.stamp.nanos = instant.nanos % nanosPerSecond / 1000000 * 1000000 := rfl
  have whole := instant.secondOfDay_eq
  have below : instant.nanos < 2 * 1000000000 := instant.nanos_lt
  have billion : nanosPerSecond = 1000000000 := rfl
  simp only [truncateToMillis, Stamp.seconds, Stamp.nanoseconds, days, hour, minute, second, offset,
    nanos, billion]
  rcases instant.leap_cases with ⟨early, plain⟩ | ⟨late, leap, last⟩
  · have early' : instant.secondOfMinute ≠ 60 := by omega
    rw [billion] at early
    rw [if_neg early', if_neg early', plain]
    omega
  · rw [billion] at late
    rw [if_pos leap, if_pos leap]
    omega

theorem denotes_toText (instant : Instant) : Denotes instant.toText instant.truncateToMillis :=
  ⟨instant.stamp, instant.isValid_stamp, instant.toList_toText, instant.stamp_eq⟩

/-- What is written for an instant is read back, but for what is below the millisecond, if its year
has four digits. -/
theorem parse?_toText {instant : Instant} (low : 0 ≤ instant.date.year)
    (high : instant.date.year ≤ 9999) :
    Timestamp.parse? instant.toText = some instant.truncateToMillis :=
  Timestamp.parse?_eq_some_iff.2
    ⟨instant.stamp, instant.isValid_stamp, ⟨low, high⟩, instant.toList_toText, instant.stamp_eq⟩

/-- A year of more digits, or one before year 0, has a sign, and what is written is not read back. -/
theorem parse?_toText_eq_none {instant : Instant}
    (outside : ¬ (0 ≤ instant.date.year ∧ instant.date.year ≤ 9999)) :
    Timestamp.parse? instant.toText = none := by
  rw [Option.eq_none_iff_forall_ne_some]
  intro other found
  obtain ⟨stamp, valid, ⟨low, high⟩, same, _⟩ := Timestamp.parse?_eq_some_iff.1 found
  obtain ⟨year, isYear⟩ := Int.eq_ofNat_of_zero_le low
  have small : year < 10000 := by omega
  rw [toList_toText, Stamp.text, Stamp.text, isYear, yearText_of_within small] at same
  have signed : ∃ sign rest, sign.isDigit = false ∧
      (yearText instant.stamp.date.year).toList = sign :: rest := by
    have year : instant.stamp.date.year = instant.date.year := rfl
    rw [year, yearText, if_neg outside]
    split
    · exact ⟨'-', _, by decide, String.toList_append⟩
    · exact ⟨'+', _, by decide, String.toList_append⟩
  obtain ⟨sign, rest, noDigit, begins⟩ := signed
  have length := length_padded (by decide) (show year < 10 ^ 4 from small)
  cases digits : (padded 4 year).toList with
  | nil =>
    rw [digits] at length
    cases length
  | cons c more =>
    rw [begins, digits] at same
    have isDigit := allDigits_padded 4 year c (by rw [digits]; exact List.mem_cons_self)
    rw [← (List.cons.inj same).1, noDigit] at isDigit
    cases isDigit

end Instant

end DeviceGateway.Time
