/-
# Transfers

A message on its way over a link, the outcome that the peer reports on it, and the feedback to the hub
that follows from the outcome.
-/

import DeviceGateway.Message.Basic
import DeviceGateway.Status

namespace DeviceGateway.Link

/-- A message as it goes over a link. -/
structure Transfer where
  /-- The tag under which the peer reports on the delivery. -/
  tag : Bytes := []
  body : Bytes := []
  /-- The properties of the application. -/
  properties : TextMap String := .empty
  messageId : Option String := none
  correlationId : Option String := none
  contentType : Option String := none
  contentEncoding : Option String := none
deriving DecidableEq, Inhabited

namespace Transfer

/-- The transfer of a message, without a tag. -/
def ofMessage (message : Message) : Transfer where
  body := message.body
  properties := message.properties
  messageId := message.system.get? SystemProperty.messageId
  correlationId := message.system.get? SystemProperty.correlationId
  contentType := message.system.get? SystemProperty.contentType
  contentEncoding := message.system.get? SystemProperty.contentEncoding

/-- The message of a transfer. -/
def toMessage (transfer : Transfer) : Message where
  body := transfer.body
  properties := transfer.properties
  system :=
    (((TextMap.empty.insert? SystemProperty.messageId transfer.messageId).insert?
      SystemProperty.correlationId transfer.correlationId).insert?
      SystemProperty.contentType transfer.contentType).insert?
      SystemProperty.contentEncoding transfer.contentEncoding

end Transfer

/-- How a delivery ended, as the code that the peer reports. -/
structure Outcome where
  descriptor : Nat
deriving DecidableEq, Repr

namespace Outcome

def accepted : Outcome := ⟨0x24⟩
def rejected : Outcome := ⟨0x25⟩
def released : Outcome := ⟨0x26⟩
def modified : Outcome := ⟨0x27⟩

/-- The feedback on a delivery: accepted completes it, rejected rejects it, released abandons it.
Any other outcome has no feedback. -/
def feedback (outcome : Outcome) : Answer Feedback :=
  if outcome = accepted then .ok .complete
  else if outcome = rejected then .ok .reject
  else if outcome = released then .ok .abandon
  else .error (.unrecognizedOutcome outcome.descriptor)

end Outcome

end DeviceGateway.Link
