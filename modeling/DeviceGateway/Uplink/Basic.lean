/-
# The client of the hub

The client of one identity publishes through the connection that is up and keeps what the hub has sent
until somebody asks for it: answers to twin requests under the identifiers of the requests, and messages
in a queue of limited length.  It also keeps the callbacks for method requests and patches.

What is handed to a connection is kept in the outbox, in order and never changed, and so is what is
announced about the connection.
-/

import DeviceGateway.Data.Line
import DeviceGateway.Session.Client
import DeviceGateway.Settings.Hub
import DeviceGateway.Topic.Hub
import DeviceGateway.Topic.Router
import DeviceGateway.Uplink.Gate

namespace DeviceGateway

namespace Uplink

/-- What the hub answers to a twin request. -/
structure TwinReply where
  status : Nat
  /-- The version of the section that was patched. -/
  version : Option Int
  body : Bytes
deriving DecidableEq

/-- Where a publication of the hub goes. -/
inductive Destination where
  | twinResponses
  | desiredPatches
  | methodRequests
  | deviceMessages
deriving DecidableEq, Repr

/-- What was handed to a connection. -/
structure Publication where
  /-- The number of the connection. -/
  connection : Nat
  topic : String
  guarantee : DeliveryGuarantee
  payload : Bytes
deriving DecidableEq

end Uplink

/-- The client of an identity. -/
structure Uplink where
  identity : Identity
  settings : Settings.Hub
  /-- The filters the client subscribes to, with their destinations. -/
  router : Topic.Router Uplink.Destination
  gate : Uplink.Gate := {}
  /-- The state of the connection as others see it. -/
  phase : Uplink.Phase := .connecting
  /-- How many connections have come up. -/
  connections : Nat := 0
  /-- The connections that take no more publications. -/
  broken : List Nat := []
  /-- The number of the next twin request. -/
  nextRequest : Nat := 1
  /-- The identifiers of the twin requests that wait for an answer. -/
  pending : List String := []
  /-- The answers that have arrived and were not yet taken. -/
  replies : List (String × Uplink.TwinReply) := []
  /-- The callback for method requests. -/
  onMethod : Option Callback := none
  /-- The callback for patches to the desired section. -/
  onDesired : Option Callback := none
  /-- The messages that wait for being received, from the oldest on. -/
  queue : List HubMessage := []
  /-- Who waits for a message. -/
  receivers : Line := {}
  /-- What was handed to connections, from the oldest on. -/
  outbox : List Uplink.Publication := []
  /-- What was announced about the connection, from the oldest on. -/
  announced : List (ConnectionStatus × StatusReason) := []

namespace Uplink

/-- The filters of an identity with their destinations.  A module has no queue at the hub. -/
def routes (identity : Identity) : List (String × Destination) :=
  [(Topic.Hub.twinResponses, .twinResponses), (Topic.Hub.desiredPatches, .desiredPatches),
    (Topic.Hub.methodRequests, .methodRequests)] ++
    if identity.isModule then [] else [(Topic.Hub.deviceMessages identity, .deviceMessages)]

/-- Register routes one after the other; the first that is no filter ends it. -/
def registerAll (router : Topic.Router Destination) :
    List (String × Destination) → Answer (Topic.Router Destination)
  | [] => .ok router
  | (filter, destination) :: rest =>
    match router.register filter destination with
    | .ok router => registerAll router rest
    | .error fault => .error (.invalidArgument "topic filter" fault.message)

/-- A new client.  There is none for an identity whose name is no level of a filter. -/
def new (identity : Identity) (settings : Settings.Hub) : Answer Uplink :=
  (registerAll {} (routes identity)).map fun router => { identity, settings, router }

/-- The fault of a publication whose connection takes no more. -/
def brokenFault : Fault := .publishFailed "Failed to send mqtt requests to eventloop"

/-- The fault of receiving from a client that is closed. -/
def closedFault (uplink : Uplink) : Fault :=
  .runtime ("upstream client of '" ++ uplink.identity.toText ++ "' is closed")

/-- Publish through the connection that is up. -/
def publish (uplink : Uplink) (topic : String) (payload : Bytes) : Uplink × Answer Unit :=
  match uplink.gate.pass with
  | .error fault => (uplink, .error fault)
  | .ok connection =>
    if connection ∈ uplink.broken then (uplink, .error brokenFault)
    else
      ({ uplink with
          outbox := uplink.outbox ++
            [{ connection, topic, guarantee := uplink.settings.guarantee, payload }] },
        .ok ())

/-! ## What happens to the connection -/

/-- A connection has come up. -/
def connected (uplink : Uplink) : Uplink :=
  { uplink with
    gate := uplink.gate.opened uplink.connections
    connections := uplink.connections + 1
    phase := .connected }

/-- The connection was lost. -/
def lost (uplink : Uplink) (failure : String) : Uplink :=
  { uplink with gate := uplink.gate.lost failure, phase := .disconnected }

/-- The connection that is up takes no more publications. -/
def breakConnection (uplink : Uplink) : Uplink :=
  match uplink.gate.connection with
  | some connection => { uplink with broken := connection :: uplink.broken }
  | none => uplink

/-- The hub has refused the credentials. -/
def refuse (uplink : Uplink) (fault : Fault) : Uplink :=
  { uplink with gate := uplink.gate.refuse fault }

/-- The connection is gone and no failure is known. -/
def disconnected (uplink : Uplink) : Uplink := { uplink with gate := uplink.gate.disconnected }

/-- Change the state of the connection as others see it. -/
def enter (uplink : Uplink) (phase : Phase) : Uplink := { uplink with phase }

/-- Announce something about the connection. -/
def announce (uplink : Uplink) (status : ConnectionStatus) (reason : StatusReason) : Uplink :=
  { uplink with announced := uplink.announced ++ [(status, reason)] }

/-- Close the client, which ends all requests that wait; a second time nothing happens. -/
def close (uplink : Uplink) : Uplink :=
  if uplink.gate.shutdown then uplink
  else { uplink with gate := uplink.gate.close, pending := [] }

/-- Whether the client is closed. -/
def isClosed (uplink : Uplink) : Bool := uplink.gate.shutdown

/-! ## What the hub sends -/

/-- Keep an answer for the request with an identifier; an answer nobody waits for is dropped. -/
def deliverReply (uplink : Uplink) (requestId : String) (reply : TwinReply) : Uplink :=
  if requestId ∈ uplink.pending then
    { uplink with
      pending := uplink.pending.filter fun other => other != requestId
      replies := uplink.replies ++ [(requestId, reply)] }
  else uplink

/-- Put a message into the queue; a message that finds it full is dropped. -/
def enqueue (uplink : Uplink) (message : HubMessage) : Uplink :=
  if uplink.queue.length < uplink.settings.queueBound then
    { uplink with queue := uplink.queue ++ [message] }
  else uplink

end Uplink

end DeviceGateway
