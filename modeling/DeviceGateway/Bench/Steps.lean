/-
# The steps of a script

What a step of a script does at once, and which operation it starts.
-/

import DeviceGateway.Bench.Play

namespace DeviceGateway.Bench.World

/-! ## Listeners and callbacks of the script -/

/-- Add a recording listener. -/
def addListener (world : World) (name : String) (answer : MethodAnswer) : World × Listener :=
  ({ world with listeners := world.listeners ++ [{ name, answer }] },
    .attached world.listeners.length)

/-- Add a callback of the script. -/
def addExternal (world : World) (external : External) : World × Callback :=
  ({ world with externals := world.externals ++ [external] }, .external world.externals.length)

/-- Call the client of the script. -/
def beginCall (world : World) (call : ClientCall) : Turn :=
  let (world, frame) := world.callClient 0 call
  .go world frame

/-! ## Receiving halves on their own -/

/-- The identity of the session of the script. -/
def targetText (world : World) : String :=
  match world.registry.sessions[0]? with
  | some session => session.identity.toText
  | none => ""

/-- Begin a step of the receiving half that stands on its own. -/
def beginReceiver (world : World) : ReceiverStep → Turn
  | .new name answer timeout =>
    let (world, listener) := world.addListener name answer
    let inbox : Inbox := { listener, target := world.targetText, receiveTimeout := timeout }
    .done { world with receivers := world.receivers ++ [inbox] } .nothing
  | .run op =>
    if world.receivers.isEmpty then .done world .nothing
    else .go world (.inbox (world.receivers.length - 1) op)
  | .isListening =>
    match world.receivers.getLast? with
    | some inbox => .done world (.flag inbox.isListening)
    | none => .done world .nothing

/-! ## The link -/

/-- Open a link within a time. -/
def openLink (world : World) (number : Nat) (rig : LinkRig) (timeout : Nat) : Turn :=
  let settings := rig.sender.settlement.apply rig.settings
  let recorded := (world.putLink number { rig with settings }).record (.linkOpened settings timeout)
  let (called, callee) := recorded.callLink number rig .opening
  let (changed, due) := called.setAlarm timeout
  .push changed (.opening timeout due) callee

/-- The outcome of a delivery that was registered with a number becomes known. -/
def disposeRegistered (world : World) (number : Nat) (rig : LinkRig) (registration : Nat)
    (disposition : Link.Disposition) : Turn :=
  match rig.tags[registration]? with
  | some tag =>
    let waits := rig.waiting.any fun entry => entry.1 = tag
    .done (world.putLink number (disposeTag rig tag disposition)) (.flag waits)
  | none => .done world (.flag false)

/-- Begin a step of the present link. -/
def beginOnLink (world : World) (number : Nat) (rig : LinkRig) : LinkStep → Turn
  | .new _ _ _ => .done world .nothing
  | .opening timeout => world.openLink number rig timeout
  | .attach => world.openLink number rig rig.sender.openTimeout
  | .closing =>
    let (world, frame) := (world.record .linkClosed).callLink number rig .closing
    .go world frame
  | .send message =>
    let generated := if (Link.Sender.tokenId? message).isSome then world.generated
      else world.generated + 1
    .go { world with generated } (.sending number (.begin message (freshId generated)))
  | .settle registration outcome =>
    world.disposeRegistered number rig registration (.reported outcome)
  | .drop registration => world.disposeRegistered number rig registration .dropped
  | .waiting => .done world (.count rig.waiting.length)
  | .fail call fault =>
    .done (world.putLink number { rig with faults := rescript rig.faults call fault }) .nothing
  | .delay call time =>
    .done (world.putLink number { rig with delays := rescript rig.delays call (some time) }) .nothing

/-- Begin a step of the link. -/
def beginLink (world : World) (step : LinkStep) : Turn :=
  match step with
  | .new name settings hangs =>
    match world.registry.sessions[0]? with
    | some session =>
      let sender := Link.Sender.new session.identity settings
      let rig : LinkRig := { sender, settings := { name }, hangs }
      .done { world with links := world.links ++ [rig] } (.link sender)
    | none => .done world .nothing
  | step =>
    match world.links.getLast? with
    | some rig => world.beginOnLink world.presentLink rig step
    | none => .done world .nothing

/-! ## Scripted clients -/

/-- Begin a step of a scripted client. -/
def beginClient (world : World) (number : Nat) (client : ScriptedClient) : ClientStep → Turn
  | .fail kind fault =>
    .done (world.mapScripted number fun client =>
      { client with faults := rescript client.faults kind fault }) .nothing
  | .delay kind time =>
    .done (world.mapScripted number fun client =>
      { client with delays := rescript client.delays kind (some time) }) .nothing
  | .setTwin twin => .done (world.mapScripted number fun client => { client with twin }) .nothing
  | .arrive arrival =>
    .done (world.mapScripted number fun client =>
      { client with arrivals := client.arrivals ++ [arrival] }) .nothing
  | .invokeMethod request =>
    match client.onMethod with
    | some callback =>
      let (world, response) := world.runMethod callback request
      .done world (.response response)
    | none => .done world .noCallback
  | .invokeDesired patch =>
    match client.onDesired with
    | some callback =>
      let (world, answer) := world.handPatch callback patch
      .done world (.unit answer)
    | none => .done world .noCallback

/-! ## The client of the hub -/

/-- Begin a step of the client of the hub. -/
def beginUplink (world : World) (uplink : Uplink) : UplinkStep → Turn
  | .connected => .done (world.putUplink 0 uplink.connected) .nothing
  | .lost failure => .done (world.putUplink 0 (uplink.lost failure)) .nothing
  | .broken => .done (world.putUplink 0 uplink.breakConnection) .nothing
  | .refused fault => .done (world.putUplink 0 (uplink.refuse fault)) .nothing
  | .report => .done world (.uplink uplink)
  | .route topic payload =>
    let (world, answer) := world.route 0 topic payload
    .done world (.unit answer)
  | .dispatch topic payload => .done (world.background (.dispatch 0 topic payload)) .nothing
  | .arrive topic payload =>
    if uplink.gate.connection.isSome then
      .done (world.background (.dispatch 0 topic payload)) .nothing
    else .done world .nothing
  | .watch => .done { world with watched := true } .nothing
  | .announce status reason => .done (world.announce 0 status reason) .nothing
  | .phase => .done world (.phase uplink.phase)
  | .await goal patience =>
    let (world, due) := world.setAlarm patience
    .go world (.awaiting goal due)
  | .closeAndAwait patience =>
    .push world (.concluding (.awaitAnnounced uplink.announced.length patience))
      (.uplink 0 (.begin .close) none)

/-! ## The registry -/

/-- Whether a frame is at work on a session of the registry. -/
def Frame.worksOn (number : Nat) : Frame → Bool
  | .registry (.onSession _ other _) | .commands other _ _ => other == number
  | _ => false

/-- Whether a frame is at work on the registry itself. -/
def Frame.worksOnRegistry : Frame → Bool
  | .registry (.onSession .closing _ _) => true
  | .registry (.onSession _ _ _) | .registry (.evict _) => false
  | .registry _ | .gathering _ true => true
  | _ => false

/-- Whether a task that is not over has a frame of a kind. -/
def isUnderWay (world : World) (kind : Frame → Bool) : Bool :=
  world.tasks.any fun task => task.outcome.isNone && task.stack.any kind

/-- Whether the registry still exists: it was not released, or it is at work. -/
def registryIsThere (world : World) : Bool :=
  !world.released || world.isUnderWay Frame.worksOnRegistry

/-- Whether a session still exists: it is mapped, somebody holds it, or it is at work. -/
def isThere (world : World) (number : Nat) : Bool :=
  (world.registryIsThere && world.registry.mapped.any fun entry => entry.2 == number) ||
    world.seen.contains (some number) || world.isUnderWay (Frame.worksOn number)

/-- The session that whoever runs the script knows by a number. -/
def held? (world : World) (proxy : Nat) : Option Nat := (world.seen[proxy]?).bind id

/-- A client of the registry announces a status some times. -/
def announceFrom (world : World) (client : Nat) (status : ConnectionStatus)
    (reason : StatusReason) : (times : Nat) → World
  | 0 => world
  | times + 1 =>
    let (registry, job) := world.registry.announce client status reason (world.isThere client)
    let changed := world.putRegistry registry
    let spawned := match job with
      | some op => changed.background (.registry op)
      | none => changed
    spawned.announceFrom client status reason times

/-- Begin a step of the registry. -/
def beginRegistry (world : World) : RegistryStep → Turn
  | .get identity =>
    match world.registry.get? identity with
    | some number =>
      let (world, proxy) := world.introduce number
      .done world (.proxy (some proxy))
    | none => .done world (.proxy none)
  | .getOrCreate identity => .push world (.concluding .obtained) (.registry (.find identity))
  | .close identity => .push world (.concluding .plain) (.registry (.close identity))
  | .closeAll =>
    let (world, tasks) := world.spawnParts
      (world.registry.identities.map fun identity => .registry (.close identity))
    .go world (.gathering tasks true)
  | .active => .done world (.identities (Identity.sorted world.registry.activeIdentities))
  | .announce client status reason times =>
    .done (world.announceFrom client status reason times) (.unit (.ok ()))
  | .failProvider fault => .done { world with providerFault := fault } .nothing
  | .delayProvider time => .done { world with providerDelay := time } .nothing
  | .command proxy command =>
    match world.held? proxy with
    | some number =>
      .push world (.concluding .plain) (.registry (.onSession .request number (.begin command)))
    | none => .done world .nothing
  | .isActive proxy =>
    match world.held? proxy with
    | some number => .done world (.flag (world.registry.isActive number))
    | none => .done world .nothing
  | .bind proxy =>
    match world.held? proxy with
    | some number =>
      let (world, listener) := world.addListener "l" (.device 200 [])
      .go world (.commands number [.bind listener, .install .method, .startListening] (.ok ()))
    | none => .done world .nothing
  | .forget proxy => .done { world with seen := world.seen.set proxy none } .nothing
  | .release => .done { world with released := true } .nothing

/-! ## Steps -/

/-- Begin a step. -/
def begin (world : World) : Step → Turn
  | .isActive => .done world (.flag (world.registry.isActive 0))
  | .command command => .go world (.session 0 (.begin command))
  | .bind name answer =>
    let (world, listener) := world.addListener name answer
    .go world (.session 0 (.begin (.bind listener)))
  | .bindLogging => .go world (.session 0 (.begin (.bind .logging)))
  | .subscribe category subscribe =>
    match category.command? subscribe with
    | some command => .push world (.concluding .subscribed) (.session 0 (.begin command))
    | none => .done world (.subscribed (.ok ()) true)
  | .receiver step => world.beginReceiver step
  | .link step => world.beginLink step
  | .client number step =>
    match world.clients[number]? with
    | some (.scripted client) => world.beginClient number client step
    | _ => .done world .nothing
  | .failListener name call fault =>
    .done { world with
      listenerFaults := rescript world.listenerFaults (name, call) fault } .nothing
  | .uplink step =>
    match world.uplink? 0 with
    | some uplink => world.beginUplink uplink step
    | none => .done world .nothing
  | .call call => world.beginCall call
  | .setMethod answer =>
    match answer with
    | some answer =>
      let (world, callback) := world.addExternal (.method answer)
      world.beginCall (.setCallback .method (some callback))
    | none => world.beginCall (.setCallback .method none)
  | .setDesired install fails =>
    if install then
      let (world, callback) := world.addExternal (.desired fails)
      world.beginCall (.setCallback .desired (some callback))
    else world.beginCall (.setCallback .desired none)
  | .registry step => world.beginRegistry step
  | .advance time =>
    let (world, due) := world.setAlarm time
    .go world (.sleeping due)
  | .together steps =>
    let (world, tasks) := world.spawnParts (steps.map Frame.starting)
    .go world (.gathering tasks false)
  | .start step =>
    let (world, task) := world.spawn .background (.starting step)
    .done { world with started := world.started ++ [task] } .nothing
  | .isDone number =>
    match world.started[number]? with
    | some task => .done world (.flag (world.outcome? task).isSome)
    | none => .done world .nothing
  | .finish number =>
    match world.started[number]? with
    | some task => .go world (.joining task)
    | none => .done world .nothing
  | .refused fault => .done world (.unit (.error fault))
  | .unreadable => .done world .unreadable

end DeviceGateway.Bench.World
