/-
# The civil calendar

Days are counted from the first of January 1970, before which the count is negative.  A date of the
proleptic Gregorian calendar is found from a count of days in two steps: the year by an estimate that
is wrong by at most one, and the month by counting through the lengths of the months.
-/

namespace DeviceGateway.Time

/-- A date of the proleptic Gregorian calendar. -/
structure Date where
  /-- The year; the year before 1 is 0. -/
  year : Int
  /-- The month, from 1 to 12. -/
  month : Nat
  /-- The day of the month, from 1 on. -/
  day : Nat
deriving DecidableEq, Repr

/-- Whether a year has a twenty-ninth of February. -/
def isLeapYear (year : Int) : Bool :=
  year % 4 == 0 && (year % 100 != 0 || year % 400 == 0)

/-- The days from the first of January of year 0 to the first of January of a year. -/
def daysBeforeYear (year : Int) : Int :=
  365 * year + ((year + 3) / 4 - (year + 99) / 100 + (year + 399) / 400)

/-- The days from the first of January of year 0 to the first of January 1970. -/
def epochDays : Int := 719528

/-- The length of a month. -/
def monthLength (leap : Bool) (month : Nat) : Nat :=
  match month with
  | 4 | 6 | 9 | 11 => 30
  | 2 => if leap then 29 else 28
  | _ => 31

/-- The days of a year before the first of a month. -/
def daysBeforeMonth (leap : Bool) : Nat → Nat
  | 0 | 1 => 0
  | month + 1 => daysBeforeMonth leap month + monthLength leap month

/-- The month and the day of the month, from a month on and after a number of days. -/
def monthAndDay (leap : Bool) : (months month days : Nat) → Nat × Nat
  | 0, month, days => (month, days + 1)
  | months + 1, month, days =>
    if days < monthLength leap month then (month, days + 1)
    else monthAndDay leap months (month + 1) (days - monthLength leap month)

/-- The year in which a day falls, counted from the first of January of year 0. -/
def yearOfDay (day : Int) : Int :=
  let estimate := day * 400 / 146097
  if day < daysBeforeYear estimate then estimate - 1
  else if day < daysBeforeYear (estimate + 1) then estimate
  else estimate + 1

namespace Date

/-- Whether the month exists and has the day. -/
def isValid (date : Date) : Bool :=
  1 ≤ date.month && date.month ≤ 12 && 1 ≤ date.day &&
    date.day ≤ monthLength (isLeapYear date.year) date.month

/-- The days from the first of January 1970 to a date. -/
def toDays (date : Date) : Int :=
  daysBeforeYear date.year + daysBeforeMonth (isLeapYear date.year) date.month + date.day - 1 -
    epochDays

/-- The date a number of days after the first of January 1970. -/
def ofDays (days : Int) : Date :=
  let day := days + epochDays
  let year := yearOfDay day
  let (month, dayOfMonth) :=
    monthAndDay (isLeapYear year) 11 1 (day - daysBeforeYear year).toNat
  { year, month, day := dayOfMonth }

end Date

/-- A day falls in the year between whose beginnings it lies. -/
theorem daysBeforeYear_yearOfDay (day : Int) :
    daysBeforeYear (yearOfDay day) ≤ day ∧ day < daysBeforeYear (yearOfDay day + 1) := by
  have low : 146097 * (day * 400 / 146097) ≤ 400 * day := by omega
  have high : 400 * day < 146097 * (day * 400 / 146097) + 146097 := by omega
  unfold yearOfDay
  simp only
  generalize day * 400 / 146097 = estimate at low high ⊢
  split
  case isTrue early =>
    have next : estimate - 1 + 1 = estimate := by omega
    rw [next]
    refine ⟨?_, early⟩
    unfold daysBeforeYear
    omega
  case isFalse notEarly =>
    split
    case isTrue inside => exact ⟨by omega, inside⟩
    case isFalse late =>
      refine ⟨by omega, ?_⟩
      unfold daysBeforeYear
      omega

end DeviceGateway.Time
