/-
# The inbox of a session

An inbox hands to one listener what the hub sends: messages, which it fetches in a loop, and method
calls and patches, for which it leaves callbacks with the client.  It is closed once and for all.

An inbox notes for each callback whether it has installed it.  The note is written after the client has
answered, so that closing an inbox and installing a callback may pass each other; the operation that
installs therefore looks again whether the inbox is still open and takes its callback back if it is
not.

The receive loop is part of the state of the inbox: there is at most one, and its position says what it
waits for.
-/

import DeviceGateway.Session.Client

namespace DeviceGateway

/-- The position of a receive loop. -/
inductive ReceiveLoop where
  /-- It asks the client for a message. -/
  | receiving
  /-- The listener is handling a message. -/
  | delivering (message : HubMessage)
  /-- It pauses after a transient fault. -/
  | pausing
deriving DecidableEq

/-- An inbox. -/
structure Inbox where
  /-- Who receives what arrives. -/
  listener : Listener
  /-- The text of the identity to which method calls are addressed. -/
  target : String
  /-- How long a receive call waits, in milliseconds. -/
  receiveTimeout : Nat := 20000
  /-- Whether the inbox is closed. -/
  cancelled : Bool := false
  /-- The receive loop, if it runs. -/
  loop : Option ReceiveLoop := none
  /-- Whether the inbox has noted a method callback of its own. -/
  methodNoted : Bool := false
  /-- Whether the inbox has noted a callback for desired properties of its own. -/
  desiredNoted : Bool := false
deriving DecidableEq

namespace Inbox

/-- Whether the receive loop runs. -/
def isListening (inbox : Inbox) : Bool := inbox.loop.isSome

/-- Whether a callback is noted as installed. -/
def noted (inbox : Inbox) : CallbackKind → Bool
  | .method => inbox.methodNoted
  | .desired => inbox.desiredNoted

/-- Note whether a callback is installed. -/
def note (inbox : Inbox) (kind : CallbackKind) (installed : Bool) : Inbox :=
  match kind with
  | .method => { inbox with methodNoted := installed }
  | .desired => { inbox with desiredNoted := installed }

/-- The callback an inbox leaves with its client. -/
def callback (inbox : Inbox) : Callback := .toListener inbox.listener inbox.target

/-- The fault of an operation on a closed inbox. -/
def closedFault (inbox : Inbox) : Fault := .sessionClosed inbox.target

@[simp]
theorem cancelled_note (inbox : Inbox) (kind : CallbackKind) (installed : Bool) :
    (inbox.note kind installed).cancelled = inbox.cancelled := by
  cases kind <;> rfl

@[simp]
theorem noted_note (inbox : Inbox) (kind : CallbackKind) (installed : Bool) :
    (inbox.note kind installed).noted kind = installed := by
  cases kind <;> rfl

@[simp]
theorem noted_note_of_ne (inbox : Inbox) {kind other : CallbackKind} (installed : Bool)
    (apart : other ≠ kind) : (inbox.note kind installed).noted other = inbox.noted other := by
  cases kind <;> cases other <;> first | rfl | exact absurd rfl apart

/-! ## Operations -/

/-- The position of an operation on an inbox. -/
inductive Op where
  /-- Install a callback, if the inbox is open. -/
  | install (kind : CallbackKind)
  /-- The client is installing a callback. -/
  | installing (kind : CallbackKind) (callback : Callback)
  /-- The client has installed a callback; it is to be noted. -/
  | installed (kind : CallbackKind)
  /-- The callback is noted; the inbox may have been closed meanwhile. -/
  | confirm (kind : CallbackKind)
  /-- The inbox was closed meanwhile; the note is to be taken back. -/
  | withdraw (kind : CallbackKind)
  /-- The inbox was closed meanwhile; the client is clearing the callback. -/
  | withdrawing (kind : CallbackKind)
  /-- The client is clearing a callback. -/
  | removing (kind : CallbackKind)
  /-- The client has cleared a callback; that is to be noted. -/
  | removed (kind : CallbackKind)
  /-- Start the receive loop, if the inbox is open. -/
  | start
  /-- The inbox was open; start the receive loop unless it runs. -/
  | launch
  /-- Close the inbox. -/
  | cancel
  /-- The inbox is being closed; the note of a callback is to be taken back. -/
  | clear (kind : CallbackKind) (result : Answer Unit)
  /-- The inbox is being closed; the client is clearing a callback. -/
  | clearing (kind : CallbackKind) (result : Answer Unit)

namespace Op

/-- Remove a callback; the client is asked at once. -/
def remove (kind : CallbackKind) : Op := removing kind

/-- Close the inbox; this is the operation that starts with `cancel`. -/
def close : Op := cancel

/-- The call an operation waits for. -/
def awaits : Op → Option ClientCall
  | installing kind callback => some (.setCallback kind (some callback))
  | withdrawing kind | removing kind | clearing kind _ => some (.setCallback kind none)
  | _ => none

end Op

/-- What closing an inbox does after one callback has been cleared. -/
def afterClear (inbox : Inbox) (kind : CallbackKind) (result : Answer Unit) :
    Move Inbox Op (Answer Unit) :=
  match kind with
  | .method => .go inbox (.clear .desired result)
  | .desired => .done inbox result

/-- One step of an operation that waits for no call. -/
def step (inbox : Inbox) : Op → Move Inbox Op (Answer Unit)
  | .install kind =>
    if inbox.cancelled then .done inbox (.error inbox.closedFault)
    else .go inbox (.installing kind inbox.callback)
  | .installed kind => .go (inbox.note kind true) (.confirm kind)
  | .confirm kind => if inbox.cancelled then .go inbox (.withdraw kind) else .done inbox (.ok ())
  | .withdraw kind =>
    if inbox.noted kind then .go (inbox.note kind false) (.withdrawing kind)
    else .done inbox (.error inbox.closedFault)
  | .removed kind => .done (inbox.note kind false) (.ok ())
  | .start => if inbox.cancelled then .done inbox (.error inbox.closedFault) else .go inbox .launch
  | .launch =>
    match inbox.loop with
    | some _ => .done inbox (.ok ())
    | none => .done { inbox with loop := some .receiving } (.ok ())
  | .cancel => .go { inbox with cancelled := true } (.clear .method (.ok ()))
  | .clear kind result =>
    if inbox.noted kind then .go (inbox.note kind false) (.clearing kind result)
    else inbox.afterClear kind result
  | op => .go inbox op

/-- What an operation does with the answer to the call it waits for. -/
def resume (inbox : Inbox) (answer : Answer Unit) : Op → Move Inbox Op (Answer Unit)
  | .installing kind _ =>
    match answer with
    | .ok _ => .go inbox (.installed kind)
    | .error fault => .done inbox (.error fault)
  | .withdrawing _ =>
    match answer with
    | .ok _ => .done inbox (.error inbox.closedFault)
    | .error fault => .done inbox (.error fault)
  | .removing kind =>
    match answer with
    | .ok _ => .go inbox (.removed kind)
    | .error fault => .done inbox (.error fault)
  | .clearing kind result => inbox.afterClear kind (result.and answer)
  | op => .go inbox op

/-! ## The receive loop -/

/-- Go on to the next message, unless the inbox is closed. -/
def nextReceive (inbox : Inbox) : Inbox :=
  { inbox with loop := if inbox.cancelled then none else some .receiving }

/-- What the loop does with the answer to a receive call: a message goes to the listener, a transient
fault makes it pause, and any other fault ends it. -/
def received (inbox : Inbox) : Answer (Option HubMessage) → Inbox
  | .ok (some message) => { inbox with loop := some (.delivering message) }
  | .ok none => inbox.nextReceive
  | .error fault =>
    if fault.isTransient then { inbox with loop := if inbox.cancelled then none else some .pausing }
    else { inbox with loop := none }

/-- What the loop does once the listener has handled a message, well or not. -/
def delivered (inbox : Inbox) : Inbox := inbox.nextReceive

/-- What the loop does after its pause. -/
def paused (inbox : Inbox) : Inbox := inbox.nextReceive

/-- A loop that waits for a message or for the end of its pause ends when the inbox is closed; a
listener that handles a message is not disturbed. -/
def interrupted (inbox : Inbox) : Inbox :=
  match inbox.loop with
  | some .receiving | some .pausing => if inbox.cancelled then { inbox with loop := none } else inbox
  | _ => inbox

/-- The pause after a transient fault, in milliseconds. -/
def pauseLength : Nat := 1000

end Inbox

end DeviceGateway
