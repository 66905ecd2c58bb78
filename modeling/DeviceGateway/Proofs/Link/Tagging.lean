/-
# The identifier of a delivery

A delivery goes under one identifier, whose bytes are the tag of the transfer and whose text is the name
under which the hub gets feedback.  It is the identifier that the lock token of the message denotes, and a
fresh one where the token denotes none; hence messages share a tag exactly if their tokens denote the same
identifier, however these are written.

A token has no say in whether sending succeeds: sending returns what the link has answered, and it
returns as soon as the link has.
-/

import DeviceGateway.Proofs.Link.Feedback
import DeviceGateway.Proofs.Uuid

namespace DeviceGateway.Link

/-- Whether a transfer carries a message. -/
structure Transfer.Carries (transfer : Transfer) (message : Message) : Prop where
  body : transfer.body = message.body
  properties : transfer.properties = message.properties
  messageId : transfer.messageId = message.system.get? SystemProperty.messageId
  correlationId : transfer.correlationId = message.system.get? SystemProperty.correlationId
  contentType : transfer.contentType = message.system.get? SystemProperty.contentType
  contentEncoding : transfer.contentEncoding = message.system.get? SystemProperty.contentEncoding

namespace Sender

theorem carries_transferOf (message : Message) (id : Uuid) :
    (transferOf message id).Carries message :=
  ⟨rfl, rfl, rfl, rfl, rfl, rfl⟩

/-! ## The identifier of a message -/

/-- Whether all that is seen of a delivery is seen under one identifier. -/
structure Tells (message : Message) (id : Uuid) (story : List Note) : Prop where
  registered : ∀ number tag, .registered number tag ∈ story → tag = id.bytes
  handed : ∀ transfer, .handed transfer ∈ story → transfer.tag = id.bytes ∧ transfer.Carries message
  /-- Nothing is returned without a transfer that the link was handed. -/
  returned : ∀ answer, .answered answer ∈ story → ∃ transfer, .handed transfer ∈ story
  feedback : ∀ messageId status, .feedback messageId status ∈ story → messageId = id.hyphenated

variable {sender : Sender} {story : List Note} {progress : Progress Task Unit} {message : Message}
  {fresh : Uuid} {run : Run} {member : Nat}

theorem Fits.tells (fits : Fits sender story progress) (begun : .begun message fresh ∈ story) :
    Tells message (deliveryId message fresh) story := by
  have carries := carries_transferOf message (deliveryId message fresh)
  have tag : (transferOf message (deliveryId message fresh)).tag =
      (deliveryId message fresh).bytes := rfl
  cases fits <;>
    (obtain ⟨rfl, rfl⟩ : message = _ ∧ fresh = _ := by simpa [opening, closing] using begun) <;>
    constructor <;> simp [opening, closing, carries, tag]

/-! ## Tags -/

theorem Sound.tells (sound : Sound run) (begun : .begun message fresh ∈ run.story member) :
    Tells message (deliveryId message fresh) (run.story member) := by
  obtain ⟨progress, _, fits⟩ := sound.stories.exists_fits sound.tidy begun
  exact fits.tells begun

end Sender

end DeviceGateway.Link
