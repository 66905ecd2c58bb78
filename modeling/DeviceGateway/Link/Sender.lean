/-
# Sending links

A sending link hands the messages of one session to a local peer.  Its delivery guarantee fixes for
all deliveries whether they are settled at once or reported on later.  A delivery that is reported on is
registered under its tag before it is sent, since the report may come before sending has returned; once
it is sent, its outcome is watched and becomes feedback to the hub.

The tag of a delivery is the identifier in the lock token of the message, and the feedback names the
same identifier.  A message without a token that is an identifier gets a fresh one.
-/

import DeviceGateway.Identity
import DeviceGateway.Link.Settlement
import DeviceGateway.Link.Transfer
import DeviceGateway.Session.Client
import DeviceGateway.Settings.Link
import DeviceGateway.Uuid

namespace DeviceGateway.Link

/-- What is known about a delivery that the peer is to report on. -/
inductive Disposition where
  /-- Nothing yet. -/
  | pending
  /-- The peer has reported an outcome. -/
  | reported (outcome : Outcome)
  /-- The link has given it up. -/
  | dropped
deriving DecidableEq, Repr

/-- A delivery that the peer is to report on. -/
structure Delivery where
  id : Uuid
  disposition : Disposition := .pending
deriving DecidableEq

/-- A sending link. -/
structure Sender where
  identity : Identity
  guarantee : DeliveryGuarantee
  /-- How long opening may take unless another time is given, in milliseconds. -/
  openTimeout : Nat
  /-- The deliveries that were registered, from the first on. -/
  deliveries : List Delivery := []
deriving DecidableEq

namespace Sender

/-- The sending link of an identity. -/
def new (identity : Identity) (settings : Settings.Link) : Sender :=
  { identity, guarantee := settings.guarantee, openTimeout := settings.openTimeout }

/-- The settlement of all deliveries on a link. -/
def settlement (sender : Sender) : Settlement := .ofGuarantee sender.guarantee

/-- The identifier in the lock token of a message. -/
def tokenId? (message : Message) : Option Uuid := message.lockToken?.bind Uuid.parse?

/-- The identifier of the delivery of a message; `fresh` is for a message that brings none. -/
def deliveryId (message : Message) (fresh : Uuid) : Uuid := (tokenId? message).getD fresh

/-- The transfer of a message under an identifier. -/
def transferOf (message : Message) (id : Uuid) : Transfer :=
  { Transfer.ofMessage message with tag := id.bytes }

/-- The fault of a link that did not open in time. -/
def openFault (timeout : Nat) : Fault := .linkOpenTimeout timeout

/-! ## Sending -/

/-- The position of sending a message. -/
inductive Op where
  | begin (message : Message) (fresh : Uuid)
  /-- The link is sending a delivery that is settled at once. -/
  | transferring (transfer : Transfer)
  /-- The link is registering a delivery. -/
  | registering (transfer : Transfer) (id : Uuid)
  /-- The link is taking a registered delivery. -/
  | queueing (transfer : Transfer) (number : Nat)

/-- What sending waits for. -/
inductive Request where
  /-- Send a transfer and wait until the link has accepted it. -/
  | send (transfer : Transfer)
  /-- Register a delivery under its tag. -/
  | register (tag : Bytes)
  /-- Take a transfer without waiting. -/
  | queue (transfer : Transfer)

/-- How sending ends: with an answer, and with a delivery whose outcome is to be watched. -/
structure Sent where
  answer : Answer Unit
  watched : Option Nat := none

namespace Op

/-- The request sending waits for. -/
def request? : Op → Option Request
  | begin _ _ => none
  | transferring transfer => some (.send transfer)
  | registering transfer _ => some (.register transfer.tag)
  | queueing transfer _ => some (.queue transfer)

end Op

/-- One step of sending that waits for nothing. -/
def step (sender : Sender) : Op → Move Sender Op Sent
  | .begin message fresh =>
    let id := deliveryId message fresh
    let transfer := transferOf message id
    if sender.settlement.awaitsDisposition then .go sender (.registering transfer id)
    else .go sender (.transferring transfer)
  | op => .go sender op

/-- What sending does with the answer of the link.  Registering has no answer of its own. -/
def resume (sender : Sender) (answer : Answer Unit) : Op → Move Sender Op Sent
  | .transferring _ => .done sender ⟨answer, none⟩
  | .registering transfer id =>
    .go { sender with deliveries := sender.deliveries ++ [{ id }] }
      (.queueing transfer sender.deliveries.length)
  | .queueing _ number =>
    match answer with
    | .ok _ => .done sender ⟨.ok (), some number⟩
    | .error fault => .done sender ⟨.error fault, none⟩
  | op => .go sender op

/-! ## Outcomes -/

/-- Note what became of a delivery, unless that is known. -/
def dispose (sender : Sender) (number : Nat) (disposition : Disposition) : Sender :=
  match sender.deliveries[number]? with
  | some delivery =>
    if delivery.disposition = .pending then
      { sender with deliveries := sender.deliveries.set number { delivery with disposition } }
    else sender
  | none => sender

/-- The position of watching a delivery. -/
inductive Watch where
  /-- Wait until something is known about the delivery. -/
  | waiting (number : Nat)
  /-- The session is giving feedback. -/
  | feeding (id : Uuid) (feedback : Feedback)
deriving DecidableEq

/-- Whether something is known about a delivery. -/
def isDecided (sender : Sender) (number : Nat) : Bool :=
  match sender.deliveries[number]? with
  | some delivery => delivery.disposition != .pending
  | none => true

/-- The step of watching a delivery about which something is known.  An outcome without feedback and a
delivery that was given up end it. -/
def watchStep (sender : Sender) : Watch → Move Sender Watch Unit
  | .waiting number =>
    match sender.deliveries[number]? with
    | some delivery =>
      match delivery.disposition with
      | .pending => .go sender (.waiting number)
      | .dropped => .done sender ()
      | .reported outcome =>
        match outcome.feedback with
        | .ok feedback => .go sender (.feeding delivery.id feedback)
        | .error _ => .done sender ()
    | none => .done sender ()
  | .feeding id feedback => .go sender (.feeding id feedback)

/-- What watching does with the answer of the session to the feedback.  A fault is not reported to
anybody. -/
def watchResume (sender : Sender) (_ : Answer Unit) : Watch → Move Sender Watch Unit
  | .feeding _ _ => .done sender ()
  | watch => .go sender watch

/-- What watching asks of the session: the identifier of the message and the feedback on it. -/
def Watch.feedback? : Watch → Option (String × Feedback)
  | waiting _ => none
  | feeding id feedback => some (id.hyphenated, feedback)

end Sender

end DeviceGateway.Link
