/-
# Settlement

When a delivery on a link counts as settled.  The delivery guarantee decides for both ends: a sender
that settles at once expects no report on the delivery, a sender that does not waits for one, and a
receiver may settle as soon as it has processed the delivery or only after the sender.
-/

import DeviceGateway.Status

namespace DeviceGateway.Link

/-- When the sender of a delivery settles it. -/
inductive SenderMode where
  | unsettled
  | settled
  | mixed
deriving DecidableEq, Repr

/-- When the receiver of a delivery settles it. -/
inductive ReceiverMode where
  /-- As soon as it has processed the delivery. -/
  | first
  /-- Only after the sender has settled. -/
  | second
deriving DecidableEq, Repr

/-- The name of a mode of the sender. -/
def SenderMode.name : SenderMode → String
  | unsettled => "Unsettled"
  | settled => "Settled"
  | mixed => "Mixed"

/-- The name of a mode of the receiver. -/
def ReceiverMode.name : ReceiverMode → String
  | first => "First"
  | second => "Second"

/-- The modes of the sender under their names. -/
def SenderMode.table : List (String × SenderMode) :=
  [("Unsettled", unsettled), ("Settled", settled), ("Mixed", mixed)]

/-- The modes of the receiver under their names. -/
def ReceiverMode.table : List (String × ReceiverMode) := [("First", first), ("Second", second)]

/-- The settings of a link; a mode that is not set is left to the transport. -/
structure LinkSettings where
  name : String
  sender : Option SenderMode := none
  receiver : Option ReceiverMode := none
deriving DecidableEq, Repr, Inhabited

/-- The modes of both ends of a link. -/
structure Settlement where
  sender : SenderMode
  receiver : ReceiverMode
deriving DecidableEq, Repr

namespace Settlement

/-- The modes that a delivery guarantee needs. -/
def ofGuarantee : DeliveryGuarantee → Settlement
  | .atMostOnce => ⟨.settled, .first⟩
  | .atLeastOnce => ⟨.unsettled, .first⟩
  | .exactlyOnce => ⟨.unsettled, .second⟩

/-- Whether a delivery is reported on after it was sent. -/
def awaitsDisposition (settlement : Settlement) : Bool := settlement.sender != .settled

/-- Set both modes of a link. -/
def apply (settlement : Settlement) (settings : LinkSettings) : LinkSettings :=
  { settings with sender := some settlement.sender, receiver := some settlement.receiver }

theorem awaitsDisposition_ofGuarantee (guarantee : DeliveryGuarantee) :
    (ofGuarantee guarantee).awaitsDisposition = true ↔ guarantee ≠ .atMostOnce := by
  cases guarantee <;> decide

end Settlement

end DeviceGateway.Link
