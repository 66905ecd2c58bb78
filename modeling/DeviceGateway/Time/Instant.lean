/-
# Instants

A moment in coordinated universal time, as seconds and nanoseconds since the beginning of 1970.  A
leap second is kept in the second before it: its nanoseconds count on from 10^9, which only the last
second of a minute can have.
-/

import DeviceGateway.Time.Calendar

namespace DeviceGateway.Time

/-- Nanoseconds in a second. -/
abbrev nanosPerSecond : Nat := 1000000000

/-- A moment in time. -/
structure Instant where
  /-- Whole seconds since the beginning of 1970. -/
  seconds : Int
  /-- Nanoseconds after them; from 10^9 on the moment lies in a leap second. -/
  nanos : Nat
  /-- A second has at most one leap second after it. -/
  nanos_lt : nanos < 2 * nanosPerSecond
  /-- Only the last second of a minute has a leap second after it. -/
  leap_at_end : nanosPerSecond ≤ nanos → seconds % 60 = 59
deriving DecidableEq

namespace Instant

/-- The instant with the given seconds and nanoseconds, if it exists. -/
def of? (seconds : Int) (nanos : Nat) : Option Instant :=
  if valid : nanos < 2 * nanosPerSecond ∧ (nanosPerSecond ≤ nanos → seconds % 60 = 59) then
    some ⟨seconds, nanos, valid.1, valid.2⟩
  else none

/-- The date of an instant. -/
def date (instant : Instant) : Date := Date.ofDays (instant.seconds / 86400)

/-- The second of the day of an instant, from 0 to 86399. -/
def secondOfDay (instant : Instant) : Nat := (instant.seconds % 86400).toNat

/-- The instant without what is below the millisecond. -/
def truncateToMillis (instant : Instant) : Instant where
  seconds := instant.seconds
  nanos := instant.nanos / 1000000 * 1000000
  nanos_lt := by have := instant.nanos_lt; omega
  leap_at_end := by
    intro late
    exact instant.leap_at_end (Nat.le_trans late (Nat.div_mul_le_self _ _))

end Instant

end DeviceGateway.Time
