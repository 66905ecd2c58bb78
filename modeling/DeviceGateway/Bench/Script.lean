/-
# Scripts for the bench

On the bench the sessions of this library run against participants that do what a script says: a
scripted client in the place of the hub, listeners that record what they hear, a link without a wire, a
provider that creates scripted clients.  This module lists what a script may ask for, what is recorded
and what a step of a script results in.
-/

import DeviceGateway.Link.Sender
import DeviceGateway.Registry.Basic
import DeviceGateway.Session.Subscription
import DeviceGateway.Uplink.Calls

namespace DeviceGateway.Bench

/-- The kinds of calls to a client. -/
inductive CallKind where
  | getTwin
  | send
  | sendBatch
  | updateReported
  | feedback (status : Feedback)
  | setCallback (kind : CallbackKind)
  | receive
  | close
deriving DecidableEq, Repr

/-- The kinds of calls under their names. -/
def CallKind.table : List (String × CallKind) :=
  [("get_twin", getTwin), ("send_event", send), ("send_event_batch", sendBatch),
    ("update_reported_properties", updateReported), ("complete", feedback .complete),
    ("abandon", feedback .abandon), ("reject", feedback .reject),
    ("set_method_handler", setCallback .method),
    ("set_desired_property_handler", setCallback .desired), ("receive_message", receive),
    ("close", close)]

/-- The name of a kind of call. -/
def CallKind.name (kind : CallKind) : String :=
  match CallKind.table.find? fun entry => entry.2 = kind with
  | some entry => entry.1
  | none => ""

/-- The kind of a call. -/
def CallKind.of : ClientCall → CallKind
  | .getTwin => getTwin
  | .send _ => send
  | .sendBatch _ => sendBatch
  | .updateReported _ => updateReported
  | .feedback status _ => feedback status
  | .setCallback kind _ => setCallback kind
  | .receive _ => receive
  | .close => close

/-- The kinds of calls to a listener that may fail. -/
inductive ListenerCall where
  | message
  | desired
deriving DecidableEq, Repr

/-- The kinds of calls to a link that may fail or take time. -/
inductive LinkCall where
  | opening
  | closing
  | sending
  | queueing
deriving DecidableEq, Repr

/-- What is done to the receiving half that stands on its own. -/
inductive ReceiverStep where
  /-- Make a new one for a listener with a name. -/
  | new (listener : String) (answer : MethodAnswer) (timeout : Nat)
  | run (op : Inbox.Op)
  /-- Whether its receive loop runs. -/
  | isListening

/-- What is done to the link. -/
inductive LinkStep where
  /-- Put a new link in the place of the old one; one that `hangs` never opens. -/
  | new (name : String) (settings : Settings.Link) (hangs : Bool)
  /-- Open it, within a time. -/
  | opening (timeout : Nat)
  /-- Open it within the time of its settings. -/
  | attach
  | closing
  | send (message : Message)
  /-- The peer reports an outcome of the delivery that was registered with a number. -/
  | settle (number : Nat) (outcome : Link.Outcome)
  /-- The link gives up the delivery that was registered with a number. -/
  | drop (number : Nat)
  /-- How many deliveries are not reported on. -/
  | waiting
  | fail (call : LinkCall) (fault : Option Fault)
  | delay (call : LinkCall) (time : Nat)

/-- What is done to a scripted client. -/
inductive ClientStep where
  /-- Let a kind of call fail from now on, or no longer. -/
  | fail (kind : CallKind) (fault : Option Fault)
  /-- Let a kind of call take some time. -/
  | delay (kind : CallKind) (time : Nat)
  | setTwin (twin : Twin)
  /-- Let a message arrive, or a fault. -/
  | arrive (arrival : Answer HubMessage)
  | invokeMethod (request : MethodRequest)
  | invokeDesired (patch : PropertySet)

/-- What a script may wait for. -/
inductive Goal where
  /-- A number of status changes were announced. -/
  | announced (count : Nat)
  /-- Callbacks of the script were called a number of times. -/
  | called (count : Nat)
  /-- A number of publications were handed to the newest connection. -/
  | published (count : Nat)
  /-- A connection is up, with all its subscriptions. -/
  | subscribed

/-- What happens to the client of the hub. -/
inductive UplinkStep where
  | connected
  | lost (failure : String)
  | broken
  | refused (fault : Fault)
  | report
  | route (topic : String) (payload : Bytes)
  /-- As `route`, through the task that takes publications from the connection. -/
  | dispatch (topic : String) (payload : Bytes)
  /-- The hub publishes something, which arrives if a connection is up. -/
  | arrive (topic : String) (payload : Bytes)
  /-- Listen to the status of the connection from now on. -/
  | watch
  | announce (status : ConnectionStatus) (reason : StatusReason)
  /-- The state of the connection. -/
  | phase
  /-- Wait for something, at most for some time. -/
  | await (goal : Goal) (patience : Nat)
  /-- Close the client and wait for the next announcement, at most for some time. -/
  | closeAndAwait (patience : Nat)

/-- What is done to the registry and its sessions; sessions are known by the order in which they were
first seen. -/
inductive RegistryStep where
  | get (identity : Identity)
  | getOrCreate (identity : Identity)
  | close (identity : Identity)
  | closeAll
  | active
  /-- A client announces a status some times. -/
  | announce (client : Nat) (status : ConnectionStatus) (reason : StatusReason) (times : Nat)
  | failProvider (fault : Option Fault)
  | delayProvider (time : Nat)
  | command (proxy : Nat) (command : Session.Command)
  | isActive (proxy : Nat)
  /-- Bind the listener of the script, install a method callback and start receiving. -/
  | bind (proxy : Nat)
  /-- Whoever runs the script lets go of a session. -/
  | forget (proxy : Nat)
  /-- Whoever runs the script lets go of the registry. -/
  | release

/-- A step of a script. -/
inductive Step where
  /-- Whether the session is active. -/
  | isActive
  | command (command : Session.Command)
  /-- Bind a recording listener with a name, or the listener of the program itself. -/
  | bind (listener : String) (answer : MethodAnswer)
  | bindLogging
  | subscribe (category : Session.Category) (subscribe : Bool)
  | receiver (step : ReceiverStep)
  | link (step : LinkStep)
  | client (number : Nat) (step : ClientStep)
  /-- Make a listener fail from now on, or no longer. -/
  | failListener (name : String) (call : ListenerCall) (fault : Option Fault)
  | uplink (step : UplinkStep)
  /-- Call the client directly. -/
  | call (call : ClientCall)
  /-- Install a callback for methods that answers as given, or clear it. -/
  | setMethod (answer : Option MethodAnswer)
  /-- Install a callback for patches, which may fail, or clear it. -/
  | setDesired (install fails : Bool)
  | registry (step : RegistryStep)
  /-- Let time pass. -/
  | advance (time : Nat)
  /-- Run steps at the same time. -/
  | together (steps : List Step)
  /-- Run a step in the background. -/
  | start (step : Step)
  /-- Whether the step started with a number is over. -/
  | isDone (number : Nat)
  /-- Wait for the step started with a number. -/
  | finish (number : Nat)
  /-- A step that cannot be begun. -/
  | refused (fault : Fault)
  /-- A step whose document cannot be read. -/
  | unreadable

mutual

/-- Whether a step closes all sessions of the registry, which has no order of its own. -/
def Step.closesAll : Step → Bool
  | .registry .closeAll => true
  | .together steps => anyClosesAll steps
  | .start step => step.closesAll
  | _ => false

/-- Whether one of several steps closes all sessions. -/
def anyClosesAll : List Step → Bool
  | [] => false
  | step :: rest => step.closesAll || anyClosesAll rest

end

/-- What is recorded. -/
inductive Event where
  /-- A call to a scripted client. -/
  | call (call : ClientCall)
  /-- A session reports its status. -/
  | status (status : ConnectionStatus) (reason : StatusReason)
  /-- A listener hears a message. -/
  | message (listener : String) (message : Message)
  /-- A listener hears of desired properties. -/
  | desired (listener : String) (message : Message)
  /-- A listener gets a method call. -/
  | method (listener : String) (call : MethodCall)
  | linkOpened (settings : Link.LinkSettings) (timeout : Nat)
  | linkClosed
  /-- A transfer is handed to the link. -/
  | transfer (transfer : Link.Transfer) (waits : Bool)
  /-- A delivery is registered. -/
  | registered (tag : Bytes)
  /-- A callback of the script runs a method. -/
  | callback (request : MethodRequest)
  /-- A callback of the script handles a patch. -/
  | callbackDesired (patch : PropertySet)
  /-- The status of the connection was announced to whoever watches it. -/
  | announced (status : ConnectionStatus) (reason : StatusReason)
  /-- The provider creates a client. -/
  | created (identity : Identity)
  /-- Something was handed to the connection. -/
  | published (publication : Uplink.Publication)

/-- What a step results in. -/
inductive Outcome where
  | nothing
  | flag (value : Bool)
  | count (value : Nat)
  | unit (answer : Answer Unit)
  | client (answer : ClientAnswer)
  | session (result : Session.Result)
  | response (response : MethodResponse)
  /-- There is no callback. -/
  | noCallback
  /-- A subscription was processed; for some there is nothing to do. -/
  | subscribed (answer : Answer Unit) (isVoid : Bool)
  | link (sender : Link.Sender)
  | uplink (uplink : Uplink)
  | phase (phase : Uplink.Phase)
  /-- The number of a session in the order in which they were first seen, and whether it is active. -/
  | proxy (proxy : Option (Nat × Bool))
  | obtained (proxy : Answer (Nat × Bool))
  | registry (result : Registry.Result)
  | identities (identities : List Identity)
  | all (outcomes : List Outcome)
  /-- A document of the step could not be read. -/
  | unreadable

instance : Inhabited Outcome := ⟨.nothing⟩

end DeviceGateway.Bench
