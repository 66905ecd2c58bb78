/-
# The registry of sessions

The registry keeps at most one active session for each identity.  A session is made when it is first
asked for; those who ask for one that is not there wait in a line, so that no two of them make it at
the same time, and look again when it is their turn.

A session leaves the registry when it is closed through it, when it reports that its credentials were
rejected, and when its client announces a status from which there is no return.  In the last two cases
the session is closed first, and the registry forgets whatever session is mapped under the identity only
if that one is closed: a session made in the meantime stays.

Making a session for a client that the provider has created, noting that the client's status is heard,
and mapping the session is one step, and so is unmapping a session and turning it inactive.
-/

import DeviceGateway.Data.Line
import DeviceGateway.Registry.Feed
import DeviceGateway.Session.Basic

namespace DeviceGateway

/-- A registry. -/
structure Registry where
  /-- How long receive calls of its sessions wait, in milliseconds. -/
  receiveTimeout : Nat := 20000
  /-- All sessions made so far; the clients that the provider has created have the same numbers. -/
  sessions : List Session := []
  /-- The number of the session that is mapped under an identity. -/
  mapped : List (Identity × Nat) := []
  /-- Who waits for making a session. -/
  makers : Line := {}
  /-- What the subscriber of status changes finds. -/
  feed : Feed := {}
deriving DecidableEq

namespace Registry

instance : Inhabited Registry := ⟨{}⟩

/-- How an operation ends. -/
inductive Result where
  /-- The number of a session, or why there is none. -/
  | found (answer : Answer Nat)
  /-- Whether a session was there and is closed in order. -/
  | closed (clean : Bool)
  /-- The end of an operation on a session. -/
  | session (result : Session.Result)
  /-- A closed session has been forgotten. -/
  | evicted

/-- Why an operation deals with a session. -/
inductive Purpose where
  /-- Its owner asked for it. -/
  | request
  /-- The registry was asked to close it. -/
  | closing
  /-- Its client announced that there is no return; the session is to be forgotten. -/
  | eviction

/-- The position of an operation. -/
inductive Op where
  /-- Look for an active session. -/
  | find (identity : Identity)
  /-- There was none; join the line of those who make one. -/
  | join (identity : Identity)
  /-- Wait for the turn to make one. -/
  | waiting (identity : Identity) (ticket : Nat)
  /-- Look again, as somebody may have made one meanwhile. -/
  | findAgain (identity : Identity) (ticket : Nat)
  /-- The provider is creating a client. -/
  | creating (identity : Identity) (ticket : Nat)
  /-- Leave the line with what was found. -/
  | leave (ticket : Nat) (answer : Answer Nat)
  /-- Close the session that is mapped under an identity, and forget it. -/
  | close (identity : Identity)
  /-- A session is at work. -/
  | onSession (purpose : Purpose) (number : Nat) (op : Session.Op)
  /-- Forget the session that is mapped under an identity if it is closed. -/
  | evict (identity : Identity)

/-- What an operation waits for. -/
inductive Request where
  /-- The provider creating a client. -/
  | create (identity : Identity)
  /-- An answer of the client with a number. -/
  | call (number : Nat) (call : ClientCall)

namespace Op

/-- The request an operation waits for. -/
def request? : Op → Option Request
  | creating identity _ => some (.create identity)
  | onSession _ number op =>
    match op.request? with
    | some (.call call) => some (.call number call)
    | _ => none
  | _ => none

end Op

/-- The number that is mapped under an identity. -/
def numberOf? (registry : Registry) (identity : Identity) : Option Nat :=
  (registry.mapped.find? fun entry => entry.1 = identity).map Prod.snd

/-- Whether the session with a number is active. -/
def isActive (registry : Registry) (number : Nat) : Bool :=
  match registry.sessions[number]? with
  | some session => session.active
  | none => false

/-- The active session of an identity. -/
def get? (registry : Registry) (identity : Identity) : Option Nat :=
  (registry.numberOf? identity).filter registry.isActive

/-- The identities with an active session. -/
def activeIdentities (registry : Registry) : List Identity :=
  (registry.mapped.filter fun entry => registry.isActive entry.2).map Prod.fst

/-- The identities with a session. -/
def identities (registry : Registry) : List Identity := registry.mapped.map Prod.fst

/-- Forget what is mapped under an identity. -/
def unmap (registry : Registry) (identity : Identity) : Registry :=
  { registry with mapped := registry.mapped.filter fun entry => entry.1 ≠ identity }

/-- Map a session under an identity, in the place of any other. -/
def map (registry : Registry) (identity : Identity) (number : Nat) : Registry :=
  { registry with mapped := (registry.unmap identity).mapped ++ [(identity, number)] }

/-- Put a session in the place of the one with its number. -/
def putSession (registry : Registry) (number : Nat) (session : Session) : Registry :=
  { registry with sessions := registry.sessions.set number session }

/-- Forget the session that is mapped under an identity if it is closed. -/
def evictInactive (registry : Registry) (identity : Identity) : Registry :=
  match registry.numberOf? identity with
  | some number => if registry.isActive number then registry else registry.unmap identity
  | none => registry

/-- Tell the subscriber about a change. -/
def publish (registry : Registry) (identity : Identity) (status : ConnectionStatus)
    (reason : StatusReason) : Registry :=
  { registry with feed := registry.feed.publish ⟨identity, status, reason⟩ }

/-- A session of an identity reports a change: one that was closed because of its credentials is
forgotten. -/
def hear (registry : Registry) (identity : Identity) (status : ConnectionStatus)
    (reason : StatusReason) : Registry :=
  let cleared :=
    if status = .disconnected ∧ reason = .expiredCredential then registry.evictInactive identity
    else registry
  cleared.publish identity status reason

/-- The session of a client that the provider has created for an identity. -/
def newSession (registry : Registry) (identity : Identity) : Session :=
  { identity, reports := true, receiveTimeout := registry.receiveTimeout }

/-- Make a session for a new client and map it. -/
def adopt (registry : Registry) (identity : Identity) : Registry :=
  ({ registry with sessions := registry.sessions ++ [registry.newSession identity] }).map
    identity registry.sessions.length

/-- Where an operation goes once a session has done its part. -/
def afterSession (registry : Registry) (number : Nat) (result : Session.Result) :
    Purpose → Move Registry Op Result
  | .request => .done registry (.session result)
  | .closing =>
    match result with
    | .closed clean => .done registry (.closed clean)
    | _ => .done registry (.closed false)
  | .eviction =>
    match registry.sessions[number]? with
    | some session => .go registry (.evict session.identity)
    | none => .done registry .evicted

/-- What a session's move means for the registry. -/
def ofSessionMove (registry : Registry) (purpose : Purpose) (number : Nat) :
    Move Session Session.Op Session.Result → Move Registry Op Result
  | .go session op => .go (registry.putSession number session) (.onSession purpose number op)
  | .done session result =>
    (registry.putSession number session).afterSession number result purpose

/-- One step of an operation that waits for nothing.  A session's report is heard at once. -/
def step (registry : Registry) : Op → Move Registry Op Result
  | .find identity =>
    match registry.get? identity with
    | some number => .done registry (.found (.ok number))
    | none => .go registry (.join identity)
  | .join identity =>
    .go { registry with makers := registry.makers.join } (.waiting identity registry.makers.next)
  | .waiting identity ticket =>
    if registry.makers.isFirst ticket then .go registry (.findAgain identity ticket)
    else .go registry (.waiting identity ticket)
  | .findAgain identity ticket =>
    match registry.get? identity with
    | some number => .go registry (.leave ticket (.ok number))
    | none => .go registry (.creating identity ticket)
  | .leave ticket answer =>
    .done { registry with makers := registry.makers.leave ticket } (.found answer)
  | .close identity =>
    match registry.numberOf? identity with
    | some number =>
      match registry.sessions[number]? with
      | some session =>
        (registry.unmap identity).ofSessionMove .closing number (session.step (.claim .asked))
      | none => .done (registry.unmap identity) (.closed false)
    | none => .done registry (.closed false)
  | .onSession purpose number op =>
    match registry.sessions[number]? with
    | some session =>
      match op.request? with
      | some (.report status reason) =>
        (registry.hear session.identity status reason).ofSessionMove purpose number
          (session.reported op)
      | some (.call _) => .go registry (.onSession purpose number op)
      | none => registry.ofSessionMove purpose number (session.step op)
    | none => .done registry (.closed false)
  | .evict identity => .done (registry.evictInactive identity) .evicted
  | .creating identity ticket => .go registry (.creating identity ticket)

/-- Whether an operation can go on without an answer. -/
def canStep (registry : Registry) (op : Op) : Bool :=
  op.request?.isNone &&
    match op with
    | .waiting _ ticket => registry.makers.isFirst ticket
    | _ => true

/-- What an operation does when the provider has created a client or failed to. -/
def created (registry : Registry) (answer : Answer Unit) : Op → Move Registry Op Result
  | .creating identity ticket =>
    match answer with
    | .ok _ => .go (registry.adopt identity) (.leave ticket (.ok registry.sessions.length))
    | .error fault => .go registry (.leave ticket (.error fault))
  | op => .go registry op

/-- What an operation does with the answer of a client. -/
def resume (registry : Registry) (stamp : String) (answer : ClientAnswer) :
    Op → Move Registry Op Result
  | .onSession purpose number op =>
    match registry.sessions[number]? with
    | some session => registry.ofSessionMove purpose number (session.resume stamp answer op)
    | none => .done registry (.closed false)
  | op => .go registry op

/-- The client with a number announces a status: the change is published, and where there is no
return and the session `isThere` still, an operation starts that closes it and forgets it. -/
def announce (registry : Registry) (number : Nat) (status : ConnectionStatus)
    (reason : StatusReason) (isThere : Bool) : Registry × Option Op :=
  match registry.sessions[number]? with
  | some session =>
    (registry.publish session.identity status reason,
      if isTerminal status reason && isThere then
        some (.onSession .eviction number (.begin .close))
      else none)
  | none => (registry, none)

end Registry

end DeviceGateway
