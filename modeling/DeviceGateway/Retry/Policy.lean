/-
# Retry policies

How often and at which pace a lost connection is tried again.  A policy limits the number of attempts
that may fail in a row and describes the intervals between them.  The fields are kept as they were
configured; what is out of range is corrected where the policy is used.
-/

import DeviceGateway.Data.Word
import DeviceGateway.Decimal.Layout
import DeviceGateway.Json.Record

namespace DeviceGateway.Retry

/-- A retry policy. -/
structure Policy where
  /-- The greatest number of attempts; nothing and zero mean that there is no limit. -/
  maxAttempts : Option Nat := none
  /-- The first interval in milliseconds. -/
  initialInterval : Nat := 1000
  /-- The greatest interval in milliseconds. -/
  maxInterval : Nat := 60000
  /-- The share of an interval by which it varies at random. -/
  randomizationFactor : Decimal.Binary64 := ⟨0x3FC999999999999A⟩
  /-- By how much each interval is longer than the one before. -/
  multiplier : Decimal.Binary64 := ⟨0x4000000000000000⟩
  /-- The time in milliseconds after which no attempt is made, if there is one. -/
  maxElapsedTime : Option Nat := none
deriving DecidableEq, Repr, Inhabited

namespace Policy

/-- One attempt and no other. -/
def noRetry : Policy where
  maxAttempts := some 1

/-- A limited number of attempts. -/
def withMaxAttempts (attempts : Nat) : Policy where
  maxAttempts := some attempts

/-- Whether another attempt may follow after a number of attempts. -/
def allowsAttempt (policy : Policy) (attempts : Nat) : Bool :=
  match policy.maxAttempts with
  | none => true
  | some greatest => greatest == 0 || attempts < greatest

/-- The names of the fields in their order. -/
def fieldNames : List String :=
  ["max_attempts", "initial_interval_ms", "max_interval_ms", "randomization_factor", "multiplier",
    "max_elapsed_time_ms"]

/-- A policy is given as a record. -/
def reader : Reader Policy := fun format part => do
  let default : Policy := {}
  let word := format.natural Word.greatest64
  let given ← format.fields fieldNames part
  let maxAttempts ← given.get "max_attempts" (format.optional (format.natural Word.greatest32)) none
  let initialInterval ← given.get "initial_interval_ms" word default.initialInterval
  let maxInterval ← given.get "max_interval_ms" word default.maxInterval
  let randomizationFactor ←
    given.get "randomization_factor" format.double default.randomizationFactor
  let multiplier ← given.get "multiplier" format.double default.multiplier
  let maxElapsedTime ← given.get "max_elapsed_time_ms" (format.optional word) none
  return { maxAttempts, initialInterval, maxInterval, randomizationFactor, multiplier,
           maxElapsedTime }

/-- The JSON form of a policy. -/
def shape : Json.Shape Policy := .of reader

/-- The JSON value of an optional number. -/
def optionalNumber : Option Nat → Json.Value
  | some n => .ofNat n
  | none => .null

/-- The JSON value of a policy. -/
def toJson (policy : Policy) : Json.Value :=
  .ofObject (.ofList
    [("max_attempts", optionalNumber policy.maxAttempts),
      ("initial_interval_ms", .ofNat policy.initialInterval),
      ("max_interval_ms", .ofNat policy.maxInterval),
      ("randomization_factor", .number (.double policy.randomizationFactor)),
      ("multiplier", .number (.double policy.multiplier)),
      ("max_elapsed_time_ms", optionalNumber policy.maxElapsedTime)])

end Policy

end DeviceGateway.Retry
