/-
# Intervals between attempts

The intervals of a policy.  Each is the one before times the multiplier, up to the greatest one; the
random variation is left to the caller, so that the intervals here are those in the middle of it.
Intervals are counted in nanoseconds and multiplied as doubles.
-/

import DeviceGateway.Retry.Policy

namespace DeviceGateway.Retry

/-- A position in a sequence of intervals, with corrected settings. -/
structure Backoff where
  /-- The next interval in nanoseconds. -/
  current : Nat
  /-- The first interval in nanoseconds. -/
  initial : Nat
  /-- The greatest interval in nanoseconds. -/
  greatest : Nat
  /-- The share of an interval by which it varies, between zero and one. -/
  randomizationFactor : Float
  /-- By how much each interval is longer than the one before; at least one. -/
  multiplier : Float
  /-- The time in nanoseconds after which no interval is given, if there is one. -/
  maxElapsed : Option Nat

namespace Backoff

/-- Nanoseconds in a millisecond. -/
abbrev nanosPerMilli : Nat := 1000000

/-- The beginning of the intervals of a policy.  The first interval is at least a millisecond and
the greatest is at least the first. -/
def ofPolicy (policy : Policy) : Backoff :=
  let initial := max policy.initialInterval 1 * nanosPerMilli
  let factor := policy.randomizationFactor.toFloat
  let multiplier := policy.multiplier.toFloat
  { current := initial
    initial
    greatest := max (max policy.maxInterval policy.initialInterval) 1 * nanosPerMilli
    randomizationFactor := if factor < 0 then 0 else if 1 < factor then 1 else factor
    multiplier := if 1 ≤ multiplier then multiplier else 1
    maxElapsed := policy.maxElapsedTime.map (· * nanosPerMilli) }

/-- A time in nanoseconds as a double. -/
def toDouble (nanos : Nat) : Float :=
  (nanos / 1000000000).toUInt64.toFloat * 1000000000.0 + (nanos % 1000000000).toUInt64.toFloat

/-- A double as a time in nanoseconds: its whole seconds and what its nanoseconds leave over. -/
def ofDouble (nanos : Float) : Nat :=
  (nanos / 1000000000.0).toUInt64.toNat * 1000000000 + nanos.toUInt64.toNat % 1000000000

/-- The interval after the current one. -/
def following (backoff : Backoff) : Nat :=
  let current := toDouble backoff.current
  if toDouble backoff.greatest / backoff.multiplier ≤ current then backoff.greatest
  else ofDouble (current * backoff.multiplier)

/-- Take the next interval, after some time has passed since the beginning; `interval` is the current
interval after its random variation.  There is none once the interval would end after the greatest
time. -/
def nextOf (backoff : Backoff) (elapsed interval : Nat) : Option Nat × Backoff :=
  let advanced := { backoff with current := backoff.following }
  match backoff.maxElapsed with
  | none => (some interval, advanced)
  | some limit =>
    if limit < elapsed then (none, backoff)
    else if elapsed + interval ≤ limit then (some interval, advanced)
    else (none, advanced)

/-- The current interval without variation. -/
def middle (backoff : Backoff) : Nat := ofDouble (toDouble backoff.current)

/-- Take the next interval without variation. -/
def next (backoff : Backoff) (elapsed : Nat) : Option Nat × Backoff :=
  backoff.nextOf elapsed backoff.middle

/-- Start again with the first interval. -/
def reset (backoff : Backoff) : Backoff := { backoff with current := backoff.initial }

/-- A number of intervals in a row, with no time to speak of between them; a time that has passed
is at least one nanosecond. -/
def take (backoff : Backoff) : (count : Nat) → List (Option Nat) × Backoff
  | 0 => ([], backoff)
  | count + 1 =>
    let (interval, advanced) := backoff.next 1
    let (rest, last) := advanced.take count
    (interval :: rest, last)

end Backoff

end DeviceGateway.Retry
