/-
# The world of the bench

Everything that exists while a script runs: the sessions, the participants of the script, the tasks that
are under way, the time, and what was recorded.

Time is a number of milliseconds that moves only when nothing can be done.  A task is a stack of frames:
the uppermost frame works or waits, and each other frame waits for the result of the one above it.
Frames that wait for a moment set an alarm for it; alarms for the same moment go off in the order in
which they were set.
-/

import DeviceGateway.Bench.Script
import DeviceGateway.Session.Logging
import DeviceGateway.Uplink.Inbound
import DeviceGateway.Uplink.Supervisor

namespace DeviceGateway.Bench

/-- A client that does what the script says. -/
structure ScriptedClient where
  twin : Twin := {}
  /-- The calls that fail. -/
  faults : List (CallKind × Fault) := []
  /-- The calls that take time. -/
  delays : List (CallKind × Nat) := []
  /-- What receive calls will find, from the oldest on. -/
  arrivals : List (Answer HubMessage) := []
  /-- Who waits for an arrival. -/
  receivers : Line := {}
  onMethod : Option Callback := none
  onDesired : Option Callback := none

instance : Inhabited ScriptedClient := ⟨{}⟩

/-- A client of a session. -/
inductive Client where
  | scripted (client : ScriptedClient)
  | uplink (uplink : Uplink)

/-- A recording listener. -/
structure ListenerScript where
  name : String
  /-- How it answers method calls. -/
  answer : MethodAnswer

/-- A callback that belongs to the script itself. -/
inductive External where
  | method (answer : MethodAnswer)
  | desired (fails : Bool)

/-- A sending link with the link it drives. -/
structure LinkRig where
  sender : Link.Sender
  settings : Link.LinkSettings
  /-- Whether opening never ends. -/
  hangs : Bool
  faults : List (LinkCall × Fault) := []
  delays : List (LinkCall × Nat) := []
  /-- The tags that were registered, from the first on. -/
  tags : List Bytes := []
  /-- The deliveries that are not reported on, each under its tag. -/
  waiting : List (Bytes × Nat) := []

/-- Where an inbox is. -/
inductive Place where
  /-- It is an inbox of a session. -/
  | bound (session number : Nat)
  /-- It stands on its own. -/
  | own (number : Nat)
deriving DecidableEq

/-- An alarm. -/
structure Alarm where
  /-- The time at which it goes off. -/
  moment : Nat
  /-- How many alarms were set before it. -/
  rank : Nat
deriving DecidableEq, Repr

/-- What becomes of a result at the end of a step. -/
inductive Conclusion where
  /-- It is the result of a subscription. -/
  | subscribed
  /-- The session is shown to whoever runs the script. -/
  | obtained
  /-- Wait until more than a number of status changes were announced, at most for some time. -/
  | awaitAnnounced (count patience : Nat)
  /-- Turn the end of an operation of the registry into that of one on a session. -/
  | plain
  /-- The result was known before. -/
  | known (outcome : Outcome)

/-- The position of a piece of work. -/
inductive Frame where
  | starting (step : Step)
  | session (number : Nat) (op : Session.Op)
  | registry (op : Registry.Op)
  /-- An operation on an inbox that stands on its own. -/
  | inbox (number : Nat) (op : Inbox.Op)
  /-- The receive loop of an inbox. -/
  | loop (place : Place)
  | uplink (number : Nat) (op : Uplink.Op) (due : Option Alarm)
  | job (number : Nat) (job : Uplink.Job)
  | dispatch (number : Nat) (topic : String) (payload : Bytes)
  /-- A supervisor, what the next connections meet, and what the present one still meets. -/
  | supervisor (number : Nat) (supervisor : Uplink.Supervisor)
    (encounters : List (List Uplink.ConnectionEvent)) (present : List Uplink.ConnectionEvent)
    (due : Option Alarm)
  /-- A scripted client answers a call at a time. -/
  | scripted (number : Nat) (call : ClientCall) (due : Alarm)
  /-- Wait for an arrival at a scripted client: first in the line, and then for some time. -/
  | arrival (number ticket timeout : Nat) (due : Option Alarm)
  /-- The provider creates a client at a time. -/
  | creating (due : Alarm)
  | sending (rig : Nat) (op : Link.Sender.Op)
  | watching (rig : Nat) (watch : Link.Sender.Watch)
  /-- A link answers a call at a time, if ever. -/
  | linkCall (rig : Nat) (call : LinkCall) (due : Option Alarm)
  /-- A link is opening, within a time that ends. -/
  | opening (timeout : Nat) (due : Alarm)
  | sleeping (due : Alarm)
  /-- Wait for tasks; count those that succeed, or take all results. -/
  | gathering (tasks : List Nat) (counts : Bool)
  /-- Wait for a task. -/
  | joining (task : Nat)
  /-- Wait for something up to a time. -/
  | awaiting (goal : Goal) (due : Alarm)
  | concluding (conclusion : Conclusion)
  /-- Run commands on a session one after the other; the first fault counts. -/
  | commands (session : Nat) (rest : List Session.Command) (result : Answer Unit)

/-- Who lets a task go on. -/
inductive Role where
  /-- The step of the script that waits for it. -/
  | step
  /-- The task that waits for it together with a few others, each time it goes on itself. -/
  | part
  /-- The task that waits for it together with many others, in the order in which they can go on. -/
  | oneOfMany
  /-- Nobody in particular. -/
  | background
deriving DecidableEq

/-- A task. -/
structure Task where
  number : Nat
  role : Role
  /-- The frames from the uppermost on. -/
  stack : List Frame
  /-- The result, once the task is over. -/
  outcome : Option Outcome := none

/-- Everything that exists while a script runs. -/
structure World where
  /-- The text that stands for the present time in messages. -/
  stamp : String
  /-- Whether sessions belong to the registry, which hears their reports. -/
  managed : Bool
  registry : Registry := {}
  clients : List Client := []
  /-- The inboxes that stand on their own. -/
  receivers : List Inbox := []
  listeners : List ListenerScript := []
  listenerFaults : List ((String × ListenerCall) × Fault) := []
  externals : List External := []
  links : List LinkRig := []
  providerFault : Option Fault := none
  providerDelay : Nat := 0
  /-- The sessions in the order in which they were first seen, without those that whoever runs the
  script has let go. -/
  seen : List (Option Nat) := []
  /-- Whether whoever runs the script has let go of the registry. -/
  released : Bool := false
  /-- Whether the status of the connection is watched. -/
  watched : Bool := false
  /-- How many identifiers were generated. -/
  generated : Nat := 0
  /-- How much of the outbox was shown. -/
  shown : Nat := 0
  now : Nat := 0
  /-- How many alarms were set. -/
  alarms : Nat := 0
  /-- How often callbacks of the script were called. -/
  called : Nat := 0
  tasks : List Task := []
  nextTask : Nat := 0
  /-- The tasks that steps have started, from the first on. -/
  started : List Nat := []
  /-- The tasks that can go on in an order of their own, from the first on. -/
  ready : List Nat := []
  /-- What was recorded, from the newest back, with the number of the client where it matters. -/
  log : List (Option Nat × Event) := []

namespace World

/-! ## Recording -/

/-- Record something. -/
def record (world : World) (event : Event) : World :=
  { world with log := (none, event) :: world.log }

/-- Record a call to a client. -/
def recordCall (world : World) (number : Nat) (call : ClientCall) : World :=
  { world with log := ((if world.managed then some number else none), .call call) :: world.log }

/-! ## Time -/

/-- Set an alarm that goes off after some time. -/
def setAlarm (world : World) (time : Nat) : World × Alarm :=
  ({ world with alarms := world.alarms + 1 }, ⟨world.now + time, world.alarms⟩)

/-- Whether the moment of an alarm has come. -/
def isDue (world : World) (alarm : Alarm) : Bool := alarm.moment ≤ world.now

/-! ## Tasks -/

/-- Start a task. -/
def spawn (world : World) (role : Role) (frame : Frame) : World × Nat :=
  ({ world with
      tasks := world.tasks ++ [{ number := world.nextTask, role, stack := [frame] }]
      nextTask := world.nextTask + 1 },
    world.nextTask)

/-- Start a task in the background. -/
def background (world : World) (frame : Frame) : World := (world.spawn .background frame).1

/-- Start tasks in a role. -/
def spawnAll (world : World) (role : Role) : List Frame → World × List Nat
  | [] => (world, [])
  | frame :: rest =>
    let (world, first) := world.spawn role frame
    let (world, more) := world.spawnAll role rest
    (world, first :: more)

/-- How many tasks are few. -/
def fewTasks : Nat := 30

/-- Start several tasks for which a task waits. -/
def spawnParts (world : World) (frames : List Frame) : World × List Nat :=
  world.spawnAll (if frames.length ≤ fewTasks then .part else .oneOfMany) frames

/-- The task with a number. -/
def task? (world : World) (number : Nat) : Option Task :=
  world.tasks.find? fun task => task.number == number

/-- The result of a task, if it is over. -/
def outcome? (world : World) (number : Nat) : Option Outcome :=
  (world.task? number).bind Task.outcome

/-- Put a task in the place of the one with its number. -/
def putTask (world : World) (task : Task) : World :=
  { world with
    tasks := world.tasks.map fun other => if other.number == task.number then task else other }

/-! ## Sessions and inboxes -/

/-- Start the receive loops that run in new inboxes but not in old ones. -/
def launchLoops (world : World) (session : Nat) (before after : List Inbox) : World :=
  after.zipIdx.foldl (fun world entry =>
    let ran := match before[entry.2]? with
      | some inbox => inbox.isListening
      | none => false
    if entry.1.isListening && !ran then world.background (.loop (.bound session entry.2))
    else world) world

/-- Put a session in the place of the one with its number. -/
def putSession (world : World) (number : Nat) (session : Session) : World :=
  let before := match world.registry.sessions[number]? with
    | some session => session.inboxes
    | none => []
  { world with registry := world.registry.putSession number session }.launchLoops number before
    session.inboxes

/-- Put a registry in the place of the old one. -/
def putRegistry (world : World) (registry : Registry) : World :=
  registry.sessions.zipIdx.foldl (fun changed entry =>
    let before := match world.registry.sessions[entry.2]? with
      | some session => session.inboxes
      | none => []
    changed.launchLoops entry.2 before entry.1.inboxes) { world with registry }

/-- Put an inbox that stands on its own in the place of the one with its number. -/
def putReceiver (world : World) (number : Nat) (inbox : Inbox) : World :=
  let ran := match world.receivers[number]? with
    | some inbox => inbox.isListening
    | none => false
  let changed := { world with receivers := world.receivers.set number inbox }
  if inbox.isListening && !ran then changed.background (.loop (.own number)) else changed

/-- The inbox at a place. -/
def inbox? (world : World) : Place → Option Inbox
  | .bound session number =>
    (world.registry.sessions[session]?).bind fun session => session.inboxes[number]?
  | .own number => world.receivers[number]?

/-- Put an inbox at a place. -/
def putInbox (world : World) (place : Place) (inbox : Inbox) : World :=
  match place with
  | .bound number index =>
    match world.registry.sessions[number]? with
    | some session => world.putSession number (session.putInbox index inbox)
    | none => world
  | .own number => world.putReceiver number inbox

/-! ## Clients and links -/

/-- Change the scripted client with a number. -/
def mapScripted (world : World) (number : Nat) (change : ScriptedClient → ScriptedClient) : World :=
  match world.clients[number]? with
  | some (.scripted client) =>
    { world with clients := world.clients.set number (.scripted (change client)) }
  | _ => world

/-- The client of the hub with a number. -/
def uplink? (world : World) (number : Nat) : Option Uplink :=
  match world.clients[number]? with
  | some (.uplink uplink) => some uplink
  | _ => none

/-- Put a client of the hub in the place of the one with its number. -/
def putUplink (world : World) (number : Nat) (uplink : Uplink) : World :=
  { world with clients := world.clients.set number (.uplink uplink) }

/-- Put a link in the place of the one with its number. -/
def putLink (world : World) (number : Nat) (rig : LinkRig) : World :=
  { world with links := world.links.set number rig }

/-- The number of the present link. -/
def presentLink (world : World) : Nat := world.links.length - 1

/-! ## Lists of what is scripted -/

/-- What is scripted for a kind of call. -/
def scriptFor {κ α : Type} [DecidableEq κ] (entries : List (κ × α)) (key : κ) : Option α :=
  (entries.find? fun entry => entry.1 = key).map Prod.snd

/-- Script something for a kind of call, or nothing. -/
def rescript {κ α : Type} [DecidableEq κ] (entries : List (κ × α)) (key : κ) (value : Option α) :
    List (κ × α) :=
  let others := entries.filter fun entry => entry.1 ≠ key
  match value with
  | some value => (key, value) :: others
  | none => others

/-! ## Callbacks -/

/-- The listener of the script with a number. -/
def listenerName (world : World) (number : Nat) : String :=
  match world.listeners[number]? with
  | some listener => listener.name
  | none => ""

/-- How a listener of the script answers a call that may fail. -/
def listenerAnswer (world : World) (number : Nat) (call : ListenerCall) : Answer Unit :=
  match scriptFor world.listenerFaults (world.listenerName number, call) with
  | some fault => .error fault
  | none => .ok ()

/-- Call a callback for methods. -/
def runMethod (world : World) (callback : Callback) (request : MethodRequest) :
    World × MethodResponse :=
  match callback with
  | .toListener listener target =>
    let call := request.toCall target
    match listener with
    | .logging => (world, (Session.Logging.answer call).response)
    | .attached number =>
      let answer := match world.listeners[number]? with
        | some listener => listener.answer
        | none => .device 200 []
      (world.record (.method (world.listenerName number) call), answer.response)
  | .external number =>
    let answer := match world.externals[number]? with
      | some (.method answer) => answer
      | _ => .device 200 []
    ({ world with called := world.called + 1 }.record (.callback request), answer.response)

/-- Call a callback for patches. -/
def handPatch (world : World) (callback : Callback) (patch : PropertySet) : World × Answer Unit :=
  match callback with
  | .toListener .logging _ => (world, .ok ())
  | .toListener (.attached number) _ =>
    (world.record (.desired (world.listenerName number) patch.toMessage),
      world.listenerAnswer number .desired)
  | .external number =>
    let answer : Answer Unit := match world.externals[number]? with
      | some (.desired true) => .error .notConnected
      | _ => .ok ()
    ({ world with called := world.called + 1 }.record (.callbackDesired patch), answer)

end World

end DeviceGateway.Bench
