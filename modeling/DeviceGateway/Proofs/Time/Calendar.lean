/-
# Dates and days

Counting days and naming dates are inverse to each other.  The year of a day is found between the
beginnings of two years that lie 365 or 366 days apart, and the month by walking through the months
while days are left; what the walk keeps is the number of days before the month it has come to, together
with the days that are left.
-/

import DeviceGateway.Time.Instant
import Mathlib.Data.List.Basic

namespace DeviceGateway.Time

theorem monthLength_le (leap : Bool) (month : Nat) : monthLength leap month ≤ 31 := by
  unfold monthLength
  split <;> [skip; skip; skip; skip; split; skip] <;> omega

/-- The days before a month are those of the months before it. -/
theorem daysBeforeMonth_succ (leap : Bool) {month : Nat} (first : 1 ≤ month) :
    daysBeforeMonth leap (month + 1) = daysBeforeMonth leap month + monthLength leap month := by
  cases month with
  | zero => cases first
  | succ month => rfl

/-- A year is as long as its twelve months. -/
theorem daysBeforeYear_succ (year : Int) :
    daysBeforeYear (year + 1) = daysBeforeYear year + daysBeforeMonth (isLeapYear year) 13 := by
  have long : daysBeforeMonth true 13 = 366 := rfl
  have short : daysBeforeMonth false 13 = 365 := rfl
  cases leap : isLeapYear year with
  | true =>
    simp only [isLeapYear, Bool.and_eq_true, Bool.or_eq_true, bne_iff_ne, beq_iff_eq] at leap
    rw [long]
    unfold daysBeforeYear
    omega
  | false =>
    simp only [isLeapYear, Bool.and_eq_false_iff, Bool.or_eq_false_iff, bne_eq_false_iff_eq,
      beq_eq_false_iff_ne] at leap
    rw [short]
    unfold daysBeforeYear
    omega

/-- The walk through the months ends in a month that has the day it ends with, and counts every day
once. -/
theorem monthAndDay_spec {leap : Bool} {months month days : Nat} (last : month + months = 12)
    (first : 1 ≤ month) (within : daysBeforeMonth leap month + days < daysBeforeMonth leap 13) :
    1 ≤ (monthAndDay leap months month days).1 ∧ (monthAndDay leap months month days).1 ≤ 12 ∧
      1 ≤ (monthAndDay leap months month days).2 ∧
      (monthAndDay leap months month days).2 ≤
        monthLength leap (monthAndDay leap months month days).1 ∧
      daysBeforeMonth leap (monthAndDay leap months month days).1 +
        (monthAndDay leap months month days).2 = daysBeforeMonth leap month + days + 1 := by
  induction months generalizing month days with
  | zero =>
    obtain rfl : month = 12 := by omega
    have december : daysBeforeMonth leap 13 = daysBeforeMonth leap 12 + monthLength leap 12 :=
      daysBeforeMonth_succ leap (by omega)
    simp only [monthAndDay]
    omega
  | succ months ih =>
    unfold monthAndDay
    split
    case isTrue inside =>
      simp only
      omega
    case isFalse beyond =>
      have next := daysBeforeMonth_succ leap first
      obtain ⟨low, high, start, stop, count⟩ :=
        @ih (month + 1) (days - monthLength leap month) (by omega) (by omega) (by omega)
      exact ⟨low, high, start, stop, by omega⟩

namespace Date

theorem isValid_iff {date : Date} : date.isValid = true ↔ 1 ≤ date.month ∧ date.month ≤ 12 ∧
    1 ≤ date.day ∧ date.day ≤ monthLength (isLeapYear date.year) date.month := by
  simp [isValid, and_assoc]

/-- The date of a day exists, and lies that many days after the first of January 1970. -/
theorem isValid_ofDays_and_toDays_ofDays (days : Int) :
    (ofDays days).isValid = true ∧ (ofDays days).toDays = days := by
  obtain ⟨start, stop⟩ := daysBeforeYear_yearOfDay (days + epochDays)
  rw [daysBeforeYear_succ] at stop
  have left : ((days + epochDays - daysBeforeYear (yearOfDay (days + epochDays))).toNat : Int) =
      days + epochDays - daysBeforeYear (yearOfDay (days + epochDays)) := Int.toNat_of_nonneg (by omega)
  have zero : daysBeforeMonth (isLeapYear (yearOfDay (days + epochDays))) 1 = 0 := rfl
  obtain ⟨low, high, first, last, count⟩ := @monthAndDay_spec
    (isLeapYear (yearOfDay (days + epochDays))) 11 1
    (days + epochDays - daysBeforeYear (yearOfDay (days + epochDays))).toNat rfl (Nat.le_refl 1)
    (by omega)
  refine ⟨isValid_iff.2 ⟨low, high, first, last⟩, ?_⟩
  simp only [toDays, ofDays]
  omega

theorem isValid_ofDays (days : Int) : (ofDays days).isValid = true :=
  (isValid_ofDays_and_toDays_ofDays days).1

@[simp]
theorem toDays_ofDays (days : Int) : (ofDays days).toDays = days :=
  (isValid_ofDays_and_toDays_ofDays days).2

end Date

end DeviceGateway.Time
