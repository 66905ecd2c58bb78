/-
# Sessions

A session is the hub side of one local device or module.  It is active until it is closed for the first
time, by its owner or because the hub rejected its credentials, and does not open again.  While it is
active it passes operations on to its client, and it may have an inbox bound to it; binding another
one closes the inbox that was bound before.

Whoever turns the session inactive also tears it down: it closes the bound inbox, then the client,
whatever the inbox answered.  A session closed because of its credentials reports that once, after the
teardown.

Operations are written in steps, as for inboxes.  Every look at the session and every change to it is a
step of its own, so that other operations may come in between; a session that is closed while an inbox
is being bound to it is noticed by the operation that binds, which then takes the inbox back.
-/

import DeviceGateway.Identity
import DeviceGateway.Session.Inbox

namespace DeviceGateway

/-- A session. -/
structure Session where
  identity : Identity
  /-- Whether somebody wants to hear that the session closed itself. -/
  reports : Bool
  /-- How long receive calls of inboxes wait, in milliseconds. -/
  receiveTimeout : Nat := 20000
  /-- Whether the session still accepts operations. -/
  active : Bool := true
  /-- The inboxes bound so far, from the first on. -/
  inboxes : List Inbox := []
  /-- The number of the inbox that is bound. -/
  bound : Option Nat := none
deriving DecidableEq

namespace Session

/-- What an owner asks of a session. -/
inductive Command where
  | close
  | getTwin
  | send (message : Message)
  | sendBatch (messages : List Message)
  | updateReported (patch : Message)
  | sendFeedback (messageId : String) (status : Feedback)
  /-- Bind an inbox for a listener. -/
  | bind (listener : Listener)
  /-- Install a callback of the bound inbox. -/
  | install (kind : CallbackKind)
  /-- Remove a callback of the bound inbox. -/
  | remove (kind : CallbackKind)
  /-- Start the receive loop of the bound inbox. -/
  | startListening

/-- How an operation ends. -/
inductive Result where
  /-- Closing says whether the session is closed in order. -/
  | closed (clean : Bool)
  | done (answer : Answer Unit)
  | message (answer : Answer Message)

/-- Why a session is closed. -/
inductive Cause where
  /-- Its owner asked for it. -/
  | asked
  /-- The hub rejected its credentials, with a fault that is still to be returned. -/
  | rejected (fault : Fault)

/-- Why an operation deals with an inbox. -/
inductive Purpose where
  /-- The owner asked for it. -/
  | request
  /-- The session is being torn down. -/
  | teardown (cause : Cause)
  /-- Another inbox took its place. -/
  | replacement
  /-- It was bound to a session that is closed. -/
  | orphan

/-- The position of an operation on a session. -/
inductive Op where
  | begin (command : Command)
  /-- The client is fetching the twin. -/
  | fetching
  /-- The client is sending; rejected credentials close the session. -/
  | sending (call : ClientCall)
  /-- The client is doing something whose answer is passed on. -/
  | passing (call : ClientCall)
  /-- The session was active; find the bound inbox. -/
  | lookup (op : Inbox.Op)
  /-- An inbox is at work. -/
  | onInbox (purpose : Purpose) (number : Nat) (op : Inbox.Op)
  /-- Turn the session inactive, unless that has happened. -/
  | claim (cause : Cause)
  /-- The session was turned inactive; take away the bound inbox. -/
  | detach (cause : Cause)
  /-- The client is being closed; the inbox has answered. -/
  | closingClient (cause : Cause) (inbox : Answer Unit)
  /-- The rejected credentials are being reported. -/
  | reporting (fault : Fault)
  /-- The session was active; put a new inbox in the place of the bound one. -/
  | replace (listener : Listener)
  /-- The new inbox is bound; the session may have been closed meanwhile. -/
  | confirm
  /-- The session was closed meanwhile; take back whatever inbox is bound. -/
  | withdraw

/-- What an operation waits for. -/
inductive Request where
  /-- An answer of the client. -/
  | call (call : ClientCall)
  /-- Somebody who hears about the status. -/
  | report (status : ConnectionStatus) (reason : StatusReason)

namespace Op

/-- The request an operation waits for. -/
def request? : Op → Option Request
  | fetching => some (.call .getTwin)
  | sending call | passing call => some (.call call)
  | onInbox _ _ op => op.awaits.map .call
  | closingClient _ _ => some (.call .close)
  | reporting _ => some (.report .disconnected .expiredCredential)
  | _ => none

end Op

/-- The fault of an operation on a closed session. -/
def closedFault (session : Session) : Fault := .sessionClosed session.identity.toText

/-- The fault of an operation that needs an inbox when none is bound. -/
def unboundFault (session : Session) : Fault := .receiverNotBound session.identity.toText

/-- The fault of feedback on a message without an identifier. -/
def blankIdFault : Fault := .invalidArgument "message_id" "must not be empty or whitespace"

/-- The end of an operation that meets a fault before it reaches the client. -/
def Command.refusal : Command → Fault → Result
  | .close, _ => .closed true
  | .getTwin, fault => .message (.error fault)
  | _, fault => .done (.error fault)

/-- A new inbox for a listener. -/
def newInbox (session : Session) (listener : Listener) : Inbox :=
  { listener, target := session.identity.toText, receiveTimeout := session.receiveTimeout }

/-- Put an inbox in the place of the one with its number. -/
def putInbox (session : Session) (number : Nat) (inbox : Inbox) : Session :=
  { session with inboxes := session.inboxes.set number inbox }

/-- Go on to the client with a message, unless it has no form the hub understands. -/
def forward (session : Session) (call : Answer ClientCall) (position : ClientCall → Op) :
    Move Session Op Result :=
  match call with
  | .ok call => .go session (position call)
  | .error fault => .done session (.done (.error fault))

/-- Where a command leads in an active session. -/
def accept (session : Session) : Command → Move Session Op Result
  | .close => .go session (.claim .asked)
  | .getTwin => .go session .fetching
  | .send message => session.forward ((HubMessage.ofMessage message).map .send) .sending
  | .sendBatch messages =>
    session.forward ((HubMessage.ofMessages messages).map .sendBatch) .sending
  | .updateReported patch =>
    session.forward ((PropertySet.ofMessage patch).map .updateReported) .passing
  | .sendFeedback messageId status => .go session (.passing (.feedback status messageId))
  | .bind listener => .go session (.replace listener)
  | .install kind => .go session (.lookup (.install kind))
  | .remove kind => .go session (.lookup (.remove kind))
  | .startListening => .go session (.lookup .start)

/-- Where a command leads.  Closing a session and giving feedback without an identifier do not
depend on whether the session is active. -/
def start (session : Session) (command : Command) : Move Session Op Result :=
  match command with
  | .close => session.accept .close
  | .sendFeedback messageId status =>
    if Text.isBlankText messageId then .done session (.done (.error blankIdFault))
    else if session.active then session.accept (.sendFeedback messageId status)
    else .done session (.done (.error session.closedFault))
  | command =>
    if session.active then session.accept command
    else .done session (command.refusal session.closedFault)

/-- Where an operation goes once the session is torn down. -/
def tornDown (session : Session) (clean : Bool) : Cause → Move Session Op Result
  | .asked => .done session (.closed clean)
  | .rejected fault =>
    if session.reports then .go session (.reporting fault)
    else .done session (.done (.error fault))

/-- Where an operation goes once an inbox has done its part. -/
def afterInbox (session : Session) (answer : Answer Unit) : Purpose → Move Session Op Result
  | .request => .done session (.done answer)
  | .teardown cause => .go session (.closingClient cause answer)
  | .replacement => .go session .confirm
  | .orphan => .done session (.done (.error session.closedFault))

/-- What an inbox's move means for the session. -/
def ofInboxMove (session : Session) (purpose : Purpose) (number : Nat) :
    Move Inbox Inbox.Op (Answer Unit) → Move Session Op Result
  | .go inbox op => .go (session.putInbox number inbox) (.onInbox purpose number op)
  | .done inbox answer => (session.putInbox number inbox).afterInbox answer purpose

/-- One step of an operation that waits for nothing. -/
def step (session : Session) : Op → Move Session Op Result
  | .begin command => session.start command
  | .lookup op =>
    match session.bound with
    | some number => .go session (.onInbox .request number op)
    | none => .done session (.done (.error session.unboundFault))
  | .onInbox purpose number op =>
    match session.inboxes[number]? with
    | some inbox => session.ofInboxMove purpose number (inbox.step op)
    | none => session.afterInbox (.ok ()) purpose
  | .claim cause =>
    if session.active then .go { session with active := false } (.detach cause)
    else
      match cause with
      | .asked => .done session (.closed true)
      | .rejected fault => .done session (.done (.error fault))
  | .detach cause =>
    match session.bound with
    | some number =>
      .go { session with bound := none } (.onInbox (.teardown cause) number .close)
    | none => .go session (.closingClient cause (.ok ()))
  | .replace listener =>
    let number := session.inboxes.length
    let replaced := { session with
      inboxes := session.inboxes ++ [session.newInbox listener]
      bound := some number }
    match session.bound with
    | some previous => .go replaced (.onInbox .replacement previous .close)
    | none => .go replaced .confirm
  | .confirm => if session.active then .done session (.done (.ok ())) else .go session .withdraw
  | .withdraw =>
    match session.bound with
    | some number => .go { session with bound := none } (.onInbox .orphan number .close)
    | none => .done session (.done (.error session.closedFault))
  | op => .go session op

/-- What an operation does with the answer of the client; `stamp` is the text of the present
time. -/
def resume (session : Session) (stamp : String) (answer : ClientAnswer) :
    Op → Move Session Op Result
  | .fetching =>
    match answer with
    | .twin answer => .done session (.message (answer.map fun twin => twin.toMessage stamp))
    | _ => .go session .fetching
  | .sending _ =>
    match answer.outcome with
    | .ok _ => .done session (.done (.ok ()))
    | .error fault =>
      if fault.isUnauthorized then .go session (.claim (.rejected fault))
      else .done session (.done (.error fault))
  | .passing _ => .done session (.done answer.outcome)
  | .onInbox purpose number op =>
    match session.inboxes[number]? with
    | some inbox => session.ofInboxMove purpose number (inbox.resume answer.outcome op)
    | none => session.afterInbox (.ok ()) purpose
  | .closingClient cause inbox => session.tornDown (inbox.and answer.outcome).isOk cause
  | op => .go session op

/-- What an operation does once its report has been heard, well or not. -/
def reported (session : Session) : Op → Move Session Op Result
  | .reporting fault => .done session (.done (.error fault))
  | op => .go session op

/-! ## The receive loops of the inboxes -/

/-- Change the inbox with a number. -/
def mapInbox (session : Session) (number : Nat) (change : Inbox → Inbox) : Session :=
  match session.inboxes[number]? with
  | some inbox => session.putInbox number (change inbox)
  | none => session

end Session

end DeviceGateway
