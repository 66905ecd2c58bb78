/-
# Calls of the client

How the client of the hub answers the calls of a session.  Telemetry is published at once, and so are
messages to be sent together, one after the other up to the first fault.  A twin request registers an
identifier of its own, publishes under it and waits for the answer that carries it; whichever way it
ends, the identifier is registered no more.  Those who receive messages stand in line, and the time
they are willing to wait begins when it is their turn.

Every operation is written in steps.  An operation that waits either can go on or is told that its time
is up.
-/

import DeviceGateway.Uplink.Basic

namespace DeviceGateway.Uplink

/-- A twin request. -/
inductive TwinRequest where
  /-- Fetch the twin. -/
  | fetch
  /-- Change the reported section. -/
  | report (patch : PropertySet)

namespace TwinRequest

/-- What a request is called when it takes too long. -/
def name : TwinRequest → String
  | fetch => "get twin"
  | report _ => "update reported properties"

/-- The topic of a request. -/
def topic (requestId : String) : TwinRequest → String
  | fetch => Topic.Hub.twinRequest requestId
  | report _ => Topic.Hub.reportedPatch requestId

/-- The payload of a request. -/
def payload : TwinRequest → Bytes
  | fetch => []
  | report patch => patch.toJson.toBytes

/-- The answer to the caller when a request meets a fault. -/
def refusal (fault : Fault) : TwinRequest → ClientAnswer
  | fetch => .twin (.error fault)
  | report _ => .done (.error fault)

end TwinRequest

/-- The position of a call. -/
inductive Op where
  | begin (call : ClientCall)
  /-- Publish the rest of the telemetry. -/
  | sending (messages : List HubMessage)
  /-- The request is registered; publish it. -/
  | publishing (request : TwinRequest) (requestId : String)
  /-- The request was not published; it is registered no more. -/
  | abandoning (request : TwinRequest) (requestId : String) (fault : Fault)
  /-- Wait for the answer to the request. -/
  | awaiting (request : TwinRequest) (requestId : String)
  /-- Wait in the line of the receivers. -/
  | inLine (ticket timeout : Nat)
  /-- Wait for a message. -/
  | receiving (ticket timeout : Nat)

/-- The fault of an answer whose status is no success. -/
def replyFault (uplink : Uplink) (reply : TwinReply) : Option Fault :=
  if 200 ≤ reply.status ∧ reply.status ≤ 299 then none
  else if reply.status = 401 then
    some (.unauthorized uplink.identity.toText (Utf8.toStringLossy reply.body))
  else some (.requestFailed reply.status (Utf8.toStringLossy reply.body))

/-- What the caller gets for an answer. -/
def conclude (uplink : Uplink) (reply : TwinReply) (request : TwinRequest) : ClientAnswer :=
  match uplink.replyFault reply with
  | some fault => request.refusal fault
  | none =>
    match request with
    | .report _ => .done (.ok ())
    | .fetch =>
      match Twin.shape.read? reply.body with
      | some twin => .twin (.ok twin)
      | none => .twin (.error (.serialization ""))

/-- Forget a request. -/
def forget (uplink : Uplink) (requestId : String) : Uplink :=
  { uplink with
    pending := uplink.pending.filter fun other => other != requestId
    replies := uplink.replies.filter fun entry => entry.1 != requestId }

/-- The answer that has arrived for a request. -/
def reply? (uplink : Uplink) (requestId : String) : Option TwinReply :=
  (uplink.replies.find? fun entry => entry.1 == requestId).map Prod.snd

/-- Register a twin request under the next identifier.  The numbers of requests begin again once they
fit sixty-four bits no more. -/
def register (uplink : Uplink) (request : TwinRequest) : Move Uplink Op ClientAnswer :=
  let requestId := Numeral.ofNat uplink.nextRequest
  .go { uplink with
      nextRequest := (uplink.nextRequest + 1) % Word.count64
      pending := uplink.pending ++ [requestId] }
    (.publishing request requestId)

/-- Where a call leads. -/
def start (uplink : Uplink) : ClientCall → Move Uplink Op ClientAnswer
  | .getTwin => uplink.register .fetch
  | .updateReported patch => uplink.register (.report patch)
  | .send message => .go uplink (.sending [message])
  | .sendBatch messages => .go uplink (.sending messages)
  | .feedback .complete _ => .done uplink (.done (.ok ()))
  | .feedback .abandon _ =>
    .done uplink (.done (.error (.operationNotSupported "abandon over MQTT")))
  | .feedback .reject _ =>
    .done uplink (.done (.error (.operationNotSupported "reject over MQTT")))
  | .setCallback .method callback => .done { uplink with onMethod := callback } (.done (.ok ()))
  | .setCallback .desired callback => .done { uplink with onDesired := callback } (.done (.ok ()))
  | .receive timeout =>
    .go { uplink with receivers := uplink.receivers.join } (.inLine uplink.receivers.next timeout)
  | .close => .done uplink.close (.done (.ok ()))

/-- Leave the line of the receivers with an answer. -/
def leaveLine (uplink : Uplink) (ticket : Nat) (answer : Answer (Option HubMessage)) :
    Move Uplink Op ClientAnswer :=
  .done { uplink with receivers := uplink.receivers.leave ticket } (.received answer)

/-- Whether an operation can go on before its time is up. -/
def canStep (uplink : Uplink) : Op → Bool
  | .awaiting _ requestId => (uplink.reply? requestId).isSome || !uplink.pending.contains requestId
  | .inLine ticket _ => uplink.receivers.isFirst ticket
  | .receiving _ _ => uplink.isClosed || !uplink.queue.isEmpty
  | _ => true

/-- One step of an operation that can go on. -/
def step (uplink : Uplink) : Op → Move Uplink Op ClientAnswer
  | .begin call => uplink.start call
  | .sending [] => .done uplink (.done (.ok ()))
  | .sending (message :: rest) =>
    match uplink.publish (Topic.Hub.telemetry uplink.identity message) message.body with
    | (uplink, .ok _) => .go uplink (.sending rest)
    | (uplink, .error fault) => .done uplink (.done (.error fault))
  | .publishing request requestId =>
    match uplink.publish (request.topic requestId) request.payload with
    | (uplink, .ok _) => .go uplink (.awaiting request requestId)
    | (uplink, .error fault) => .go uplink (.abandoning request requestId fault)
  | .abandoning request requestId fault => .done (uplink.forget requestId) (request.refusal fault)
  | .awaiting request requestId =>
    match uplink.reply? requestId with
    | some reply => .done (uplink.forget requestId) (uplink.conclude reply request)
    | none =>
      if uplink.pending.contains requestId then .go uplink (.awaiting request requestId)
      else .done uplink (request.refusal .notConnected)
  | .inLine ticket timeout =>
    if uplink.receivers.isFirst ticket then .go uplink (.receiving ticket timeout)
    else .go uplink (.inLine ticket timeout)
  | .receiving ticket timeout =>
    if uplink.isClosed then uplink.leaveLine ticket (.error uplink.closedFault)
    else
      match uplink.queue with
      | message :: rest => { uplink with queue := rest }.leaveLine ticket (.ok (some message))
      | [] => .go uplink (.receiving ticket timeout)

/-- How long an operation waits in its position, in milliseconds. -/
def patience? (uplink : Uplink) : Op → Option Nat
  | .awaiting _ _ => some uplink.settings.operationTimeout
  | .receiving _ timeout => some timeout
  | _ => none

/-- What an operation does when its time is up. -/
def timeUp (uplink : Uplink) : Op → Move Uplink Op ClientAnswer
  | .awaiting request requestId =>
    .done (uplink.forget requestId)
      (request.refusal (.timeout request.name uplink.settings.operationTimeout))
  | .receiving ticket _ => uplink.leaveLine ticket (.ok none)
  | op => .go uplink op

/-- Give up an operation that waits for a message. -/
def giveUp (uplink : Uplink) : Op → Uplink
  | .inLine ticket _ | .receiving ticket _ =>
    { uplink with receivers := uplink.receivers.leave ticket }
  | _ => uplink

end DeviceGateway.Uplink
