/-
# Settings of links

The delivery guarantee of the links of local sessions and how long opening one may take.
-/

import DeviceGateway.Retry.Policy
import DeviceGateway.Status

namespace DeviceGateway.Settings

/-- Settings of links. -/
structure Link where
  /-- The delivery guarantee. -/
  guarantee : DeliveryGuarantee := .atLeastOnce
  /-- How long opening may take, in milliseconds. -/
  openTimeout : Nat := 10000
deriving DecidableEq, Repr, Inhabited

namespace Link

/-- The names of the fields in their order. -/
def fieldNames : List String := ["qos", "open_timeout_ms"]

/-- The settings are given as a record. -/
def reader : Reader Link := fun format part => do
  let default : Link := {}
  let given ← format.fields fieldNames part
  let guarantee ← given.get "qos" (DeliveryGuarantee.reader format) default.guarantee
  let openTimeout ←
    given.get "open_timeout_ms" (format.natural Word.greatest64) default.openTimeout
  return { guarantee, openTimeout }

/-- The JSON form of the settings. -/
def shape : Json.Shape Link := .of reader

end Link

end DeviceGateway.Settings
