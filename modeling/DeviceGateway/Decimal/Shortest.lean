/-
# The fewest digits that read back

The decimal text of a double has as few digits as possible under one condition: read to the nearest
double, it gives the double back.  Among the texts of that length the one nearest to the double is
taken.  Which one is taken of two that are equally near is for the format to decide.

The real numbers that read back form an interval around the double, ends included when its
significand is even.  For one, two, up to seventeen digits the two neighbours of the double on the
grid of that many digits are tested against the interval in exact arithmetic, and the first grid
with a hit wins.
-/

import DeviceGateway.Decimal.Binary64

namespace DeviceGateway.Decimal

/-- A positive decimal number: digits without zeros at either end, and the power of ten of the
first of them. -/
structure Digits where
  /-- The digits, from the most significant on. -/
  digits : List Nat
  /-- The power of ten of the first digit. -/
  exponent : Int
deriving DecidableEq, Repr, Inhabited

/-- Which of two equally near numbers is taken. -/
inductive Tie where
  /-- The one with the even last digit. -/
  | even
  /-- The one farther from zero. -/
  | away
deriving DecidableEq, Repr

/-- Whether the number above `below` is taken when both are equally near. -/
def Tie.takesAbove (tie : Tie) (below : Nat) : Bool :=
  match tie with
  | .even => below % 2 != 0
  | .away => true

/-- The positive rational numbers `value`, `low` and `high`, each as a numerator over one common
denominator. -/
structure Interval where
  /-- The number itself. -/
  value : Nat
  /-- The lower end. -/
  low : Nat
  /-- The upper end. -/
  high : Nat
  /-- Whether the ends belong to the interval. -/
  closed : Bool
  /-- The common denominator. -/
  denominator : Nat
deriving Repr

/-- The real numbers that read to a positive finite double. -/
def Interval.of (double : Binary64) : Interval :=
  let m := double.significand
  let quarter := double.exponent - 2
  let scale := twoTo quarter.toNat
  { value := 4 * m * scale
    low := (4 * m - (if double.narrowBelow then 1 else 2)) * scale
    high := (4 * m + 2) * scale
    closed := m % 2 == 0
    denominator := twoTo (-quarter).toNat }

/-- The power of ten of the first digit of a positive rational number between 10^-400 and
10^400. -/
def leadingExponent (numerator denominator : Nat) : Int :=
  ((Nat.toDigits 10 (numerator * tenTo 400 / denominator)).length : Int) - 401

/-- Whether `candidate` times ten to the power `unit` lies in an interval. -/
def Interval.holds (interval : Interval) (candidate : Nat) (unit : Int) : Bool :=
  let scaled := candidate * tenTo unit.toNat * interval.denominator
  let low := interval.low * tenTo (-unit).toNat
  let high := interval.high * tenTo (-unit).toNat
  if interval.closed then low ≤ scaled && scaled ≤ high else low < scaled && scaled < high

/-- The better neighbour of a number on the grid of ten to the power `unit`, if one of the two
lies in the interval. -/
def Interval.onGrid (interval : Interval) (tie : Tie) (unit : Int) : Option Nat :=
  let numerator := interval.value * tenTo (-unit).toNat
  let denominator := interval.denominator * tenTo unit.toNat
  let below := numerator / denominator
  let remainder := numerator % denominator
  let belowHit := below != 0 && interval.holds below unit
  let aboveHit := interval.holds (below + 1) unit
  if belowHit && aboveHit then
    if 2 * remainder < denominator then some below
    else if denominator < 2 * remainder then some (below + 1)
    else if tie.takesAbove below then some (below + 1)
    else some below
  else if belowHit then some below
  else if aboveHit then some (below + 1)
  else none

/-- The decimal digits of a number, without the zeros at its end. -/
def significantDigits (n : Nat) : List Nat :=
  (((Nat.toDigits 10 n).map fun c => c.toNat - '0'.toNat).reverse.dropWhile (· == 0)).reverse

/-- The first grid with a hit among those with `count` digits and more. -/
def firstHit (interval : Interval) (tie : Tie) (leading : Int) : (more count : Nat) → Digits
  | 0, _ => ⟨[], 0⟩
  | more + 1, count =>
    let unit := leading + 1 - count
    match interval.onGrid tie unit with
    | some candidate =>
      { digits := significantDigits candidate
        exponent := unit + ((Nat.toDigits 10 candidate).length : Int) - 1 }
    | none => firstHit interval tie leading more (count + 1)

/-- The shortest digits of a positive finite double. -/
def shortest (tie : Tie) (double : Binary64) : Digits :=
  let interval := Interval.of double
  firstHit interval tie (leadingExponent interval.value interval.denominator) 17 1

end DeviceGateway.Decimal
