/-
# Playing a frame

What one frame of a task does next: it goes on, waits for a new frame above it, ends with a result, or
is blocked until something else happens.  The frames of sessions, registries, clients and links do what
the operations of this library say; the others play the participants of the script.
-/

import DeviceGateway.Bench.World

namespace DeviceGateway.Bench

/-- What a frame does next. -/
inductive Turn where
  /-- Nothing, for the time being. -/
  | blocked
  | go (world : World) (frame : Frame)
  /-- It waits for the result of a new frame. -/
  | push (world : World) (frame callee : Frame)
  | done (world : World) (outcome : Outcome)

/-- An identifier for what comes without one; `number` tells them apart. -/
def freshId (number : Nat) : Uuid where
  bytes := (List.range 6).map (fun place => UInt8.ofNat (number >>> (8 * (5 - place)))) ++
    [0x4F, 0xFE, 0xBF, 0xFE, 0xFE, 0xFE, 0xFE, 0xFE, 0xFE, 0xFE]
  length_eq := by simp

/-- The number of an identifier that was generated, from its bytes. -/
def freshNumber? (bytes : Bytes) : Option Nat :=
  let number := (bytes.take 6).foldl (fun number byte => number * 256 + byte.toNat) 0
  if bytes = (freshId number).bytes then some number else none

namespace World

/-! ## Clients -/

/-- Call a client: the frame that answers. -/
def callClient (world : World) (number : Nat) (call : ClientCall) : World × Frame :=
  match world.clients[number]? with
  | some (.uplink _) => (world, .uplink number (.begin call) none)
  | some (.scripted client) =>
    match call with
    | .receive timeout =>
      (world.mapScripted number fun client => { client with receivers := client.receivers.join },
        .arrival number client.receivers.next timeout none)
    | _ =>
      let delay := (scriptFor client.delays (.of call)).getD 0
      let (world, due) := (world.recordCall number call).setAlarm delay
      (world, .scripted number call due)
  | none =>
    let (world, due) := world.setAlarm 0
    (world, .scripted number call due)

/-- Wait for the answer of a client. -/
def pushCall (world : World) (frame : Frame) (number : Nat) (call : ClientCall) : Turn :=
  let (world, callee) := world.callClient number call
  .push world frame callee

/-- The answer to a call that meets a fault. -/
def refusal (fault : Fault) : ClientCall → ClientAnswer
  | .getTwin => .twin (.error fault)
  | .receive _ => .received (.error fault)
  | _ => .done (.error fault)

/-- How a scripted client answers a call when its time has come. -/
def answerScripted (world : World) (number : Nat) (call : ClientCall) : World × ClientAnswer :=
  match world.clients[number]? with
  | some (.scripted client) =>
    match scriptFor client.faults (.of call) with
    | some fault => (world, refusal fault call)
    | none =>
      match call with
      | .getTwin => (world, .twin (.ok client.twin))
      | .setCallback .method callback =>
        (world.mapScripted number fun client => { client with onMethod := callback },
          .done (.ok ()))
      | .setCallback .desired callback =>
        (world.mapScripted number fun client => { client with onDesired := callback },
          .done (.ok ()))
      | _ => (world, .done (.ok ()))
  | _ => (world, refusal .notConnected call)

/-- Leave the line of those who wait for an arrival. -/
def leaveReceivers (world : World) (number ticket : Nat) : World :=
  world.mapScripted number fun client => { client with receivers := client.receivers.leave ticket }

/-- Play the wait for an arrival. -/
def playArrival (world : World) (number ticket timeout : Nat) (due : Option Alarm) : Turn :=
  match world.clients[number]? with
  | some (.scripted client) =>
    if !client.receivers.isFirst ticket then .blocked
    else
      match due, client.arrivals with
      | none, _ =>
        let (world, due) := world.setAlarm timeout
        .go world (.arrival number ticket timeout (some due))
      | some _, arrival :: rest =>
        .done ((world.mapScripted number fun client => { client with arrivals := rest
          }).leaveReceivers number ticket) (.client (.received (arrival.map some)))
      | some due, [] =>
        if world.isDue due then
          .done (world.leaveReceivers number ticket) (.client (.received (.ok none)))
        else .blocked
  | _ => .done world (.client (.received (.error .notConnected)))

/-- What a move of the client of the hub means. -/
def ofUplinkMove (world : World) (number : Nat) : Move Uplink Uplink.Op ClientAnswer → Turn
  | .go uplink op =>
    let changed := world.putUplink number uplink
    match uplink.patience? op with
    | some time =>
      let (changed, due) := changed.setAlarm time
      .go changed (.uplink number op (some due))
    | none => .go changed (.uplink number op none)
  | .done uplink answer => .done (world.putUplink number uplink) (.client answer)

/-- Play a call of the client of the hub. -/
def playUplink (world : World) (number : Nat) (op : Uplink.Op) (due : Option Alarm) : Turn :=
  match world.uplink? number with
  | some uplink =>
    if uplink.canStep op then world.ofUplinkMove number (uplink.step op)
    else if due.any world.isDue then world.ofUplinkMove number (uplink.timeUp op)
    else .blocked
  | none => .done world .nothing

/-! ## Sessions and the registry -/

/-- What a move of a session means. -/
def ofSessionMove (world : World) (number : Nat) : Move Session Session.Op Session.Result → Turn
  | .go session op => .go (world.putSession number session) (.session number op)
  | .done session result => .done (world.putSession number session) (.session result)

/-- Play an operation on a session that is not in a registry. -/
def playSession (world : World) (number : Nat) (op : Session.Op) : Turn :=
  match world.registry.sessions[number]? with
  | some session =>
    match op.request? with
    | some (.call call) => world.pushCall (.session number op) number call
    | some (.report status reason) =>
      (world.record (.status status reason)).ofSessionMove number (session.reported op)
    | none => world.ofSessionMove number (session.step op)
  | none => .done world .nothing

/-- What a move of the registry means. -/
def ofRegistryMove (world : World) : Move Registry Registry.Op Registry.Result → Turn
  | .go registry op => .go (world.putRegistry registry) (.registry op)
  | .done registry result => .done (world.putRegistry registry) (.registry result)

/-- Play an operation of the registry. -/
def playRegistry (world : World) (op : Registry.Op) : Turn :=
  match op.request? with
  | some (.create identity) =>
    let (world, due) := (world.record (.created identity)).setAlarm world.providerDelay
    .push world (.registry op) (.creating due)
  | some (.call number call) => world.pushCall (.registry op) number call
  | none =>
    if world.registry.canStep op then world.ofRegistryMove (world.registry.step op) else .blocked

/-- Play the provider. -/
def playCreating (world : World) (due : Alarm) : Turn :=
  if !world.isDue due then .blocked
  else
    match world.providerFault with
    | some fault => .done world (.unit (.error fault))
    | none =>
      .done { world with clients := world.clients ++ [.scripted {}] } (.unit (.ok ()))

/-! ## Inboxes -/

/-- What a move of an inbox that stands on its own means. -/
def ofInboxMove (world : World) (number : Nat) : Move Inbox Inbox.Op (Answer Unit) → Turn
  | .go inbox op => .go (world.putReceiver number inbox) (.inbox number op)
  | .done inbox answer => .done (world.putReceiver number inbox) (.unit answer)

/-- Play an operation on an inbox that stands on its own. -/
def playInbox (world : World) (number : Nat) (op : Inbox.Op) : Turn :=
  match world.receivers[number]? with
  | some inbox =>
    match op.awaits with
    | some call => world.pushCall (.inbox number op) 0 call
    | none => world.ofInboxMove number (inbox.step op)
  | none => .done world .nothing

/-- The session and the client of an inbox. -/
def sessionAt : Place → Nat
  | .bound session _ => session
  | .own _ => 0

/-- Let a listener handle a message. -/
def playDelivery (world : World) (place : Place) (inbox : Inbox) (message : Message) : Turn :=
  match inbox.listener with
  | .attached number =>
    .go ((world.record (.message (world.listenerName number) message)).putInbox place
      inbox.delivered) (.loop place)
  | .logging =>
    match Session.Logging.command? message with
    | some command => .push world (.loop place) (.session (sessionAt place) (.begin command))
    | none => .go (world.putInbox place inbox.delivered) (.loop place)

/-- Play a receive loop. -/
def playLoop (world : World) (place : Place) : Turn :=
  match world.inbox? place with
  | none => .done world .nothing
  | some inbox =>
    match inbox.loop with
    | none => .done world .nothing
    | some .receiving =>
      world.pushCall (.loop place) (sessionAt place) (.receive inbox.receiveTimeout)
    | some (.delivering message) => world.playDelivery place inbox message.toMessage
    | some .pausing =>
      let (world, due) := world.setAlarm Inbox.pauseLength
      .push world (.loop place) (.sleeping due)

/-- What a receive loop does with a result. -/
def resumeLoop (world : World) (place : Place) (outcome : Outcome) : Turn :=
  match world.inbox? place with
  | none => .done world .nothing
  | some inbox =>
    let next := match inbox.loop, outcome with
      | some .receiving, .client (.received answer) => inbox.received answer
      | some (.delivering _), _ => inbox.delivered
      | _, _ => inbox.paused
    .go (world.putInbox place next) (.loop place)

/-! ## What the hub sends -/

/-- Let the client of the hub take a publication. -/
def route (world : World) (number : Nat) (topic : String) (payload : Bytes) :
    World × Answer Unit :=
  match world.uplink? number with
  | some uplink =>
    match uplink.accept topic payload with
    | (uplink, .ok (some job)) =>
      ((world.putUplink number uplink).background (.job number job), .ok ())
    | (uplink, .ok none) => (world.putUplink number uplink, .ok ())
    | (uplink, .error fault) => (world.putUplink number uplink, .error fault)
  | none => (world, .ok ())

/-- Play a job. -/
def playJob (world : World) (number : Nat) : Uplink.Job → Turn
  | .handing callback patch => .done (world.handPatch callback patch).1 .nothing
  | .running callback request =>
    let (world, response) := world.runMethod callback request
    .go world (.job number ((Uplink.Job.running callback request).answered response))
  | .responding requestId response =>
    match world.uplink? number with
    | some uplink => .done (world.putUplink number (uplink.respond requestId response)) .nothing
    | none => .done world .nothing

/-! ## Supervisors -/

/-- Tell whoever watches about what was newly announced. -/
def showAnnounced (world : World) (news : List (ConnectionStatus × StatusReason)) : World :=
  if world.watched then
    news.foldl (fun world entry => world.record (.announced entry.1 entry.2)) world
  else world

/-- Announce something about the connection. -/
def announce (world : World) (number : Nat) (status : ConnectionStatus) (reason : StatusReason) :
    World :=
  match world.uplink? number with
  | some uplink =>
    (world.putUplink number (uplink.announce status reason)).showAnnounced [(status, reason)]
  | none => world

/-- Set the alarm for the end of a pause of so many nanoseconds. -/
def setPause (world : World) (interval : Nat) : World × Alarm :=
  world.setAlarm ((interval + Retry.Backoff.nanosPerMilli - 1) / Retry.Backoff.nanosPerMilli)

/-- What a connection meets when nothing is scripted: the hub cannot be reached. -/
def unreachable : List Uplink.ConnectionEvent := [.failed .io "connection refused"]

/-- Give a supervisor an input. -/
def supervise (world : World) (number : Nat) (uplink : Uplink) (supervisor : Uplink.Supervisor)
    (encounters : List (List Uplink.ConnectionEvent)) (present : List Uplink.ConnectionEvent)
    (input : Uplink.Supervisor.Input) : Turn :=
  let (after, next) := supervisor.step uplink input
  let changed := (world.putUplink number after).showAnnounced
    (after.announced.drop uplink.announced.length)
  match supervisor.position, next.position with
  | .ready, .attempting _ =>
    .go changed (.supervisor number next (encounters.drop 1) (encounters.headD unreachable) none)
  | _, .pausing interval =>
    let (changed, due) := changed.setPause interval
    .go changed (.supervisor number next encounters [] (some due))
  | _, _ => .go changed (.supervisor number next encounters present none)

/-- Play a supervisor. -/
def playSupervisor (world : World) (number : Nat) (supervisor : Uplink.Supervisor)
    (encounters : List (List Uplink.ConnectionEvent)) (present : List Uplink.ConnectionEvent)
    (due : Option Alarm) : Turn :=
  match world.uplink? number with
  | none => .done world .nothing
  | some uplink =>
    let proceed := Uplink.Supervisor.Input.proceed 1 supervisor.backoff.middle
    match supervisor.position with
    | .ended _ => .done world .nothing
    | .ready | .lost _ _ _ => world.supervise number uplink supervisor encounters present proceed
    | .attempting _ =>
      if uplink.isClosed then world.supervise number uplink supervisor encounters [] proceed
      else
        match present with
        | event :: rest => world.supervise number uplink supervisor encounters rest (.event event)
        | [] => .blocked
    | .pausing _ =>
      if uplink.isClosed then world.supervise number uplink supervisor encounters [] proceed
      else if due.any world.isDue then
        world.supervise number uplink supervisor encounters [] .timeUp
      else .blocked

/-! ## Links -/

/-- Note what became of the delivery that waits under a tag. -/
def disposeTag (rig : LinkRig) (tag : Bytes) (disposition : Link.Disposition) : LinkRig :=
  match rig.waiting.find? fun entry => entry.1 = tag with
  | some (_, number) =>
    { rig with
      sender := rig.sender.dispose number disposition
      waiting := rig.waiting.filter fun entry => entry.1 ≠ tag }
  | none => rig

/-- What a move of a sending link means. -/
def ofSenderMove (world : World) (number : Nat) (rig : LinkRig) :
    Move Link.Sender Link.Sender.Op Link.Sender.Sent → Turn
  | .go sender op => .go (world.putLink number { rig with sender }) (.sending number op)
  | .done sender sent =>
    let changed := world.putLink number { rig with sender }
    match sent.watched with
    | some delivery =>
      .done (changed.background (.watching number (.waiting delivery))) (.unit sent.answer)
    | none => .done changed (.unit sent.answer)

/-- Call a link: the frame that answers. -/
def callLink (world : World) (number : Nat) (rig : LinkRig) (call : LinkCall) : World × Frame :=
  if rig.hangs && call == .opening then (world, .linkCall number call none)
  else
    let (world, due) := world.setAlarm ((scriptFor rig.delays call).getD 0)
    (world, .linkCall number call (some due))

/-- Register a delivery under its tag; one that waits under the same tag is given up. -/
def registerTag (rig : LinkRig) (tag : Bytes) : LinkRig :=
  let cleared := disposeTag rig tag .dropped
  { cleared with
    tags := cleared.tags ++ [tag]
    waiting := cleared.waiting ++ [(tag, cleared.sender.deliveries.length)] }

/-- Play the sending of a message. -/
def playSending (world : World) (number : Nat) (op : Link.Sender.Op) : Turn :=
  match world.links[number]? with
  | none => .done world .nothing
  | some rig =>
    match op.request? with
    | none => world.ofSenderMove number rig (rig.sender.step op)
    | some (.send transfer) =>
      let (world, callee) := (world.record (.transfer transfer true)).callLink number rig .sending
      .push world (.sending number op) callee
    | some (.register tag) =>
      let rig := registerTag rig tag
      (world.record (.registered tag)).ofSenderMove number rig (rig.sender.resume (.ok ()) op)
    | some (.queue transfer) =>
      let recorded := world.record (.transfer transfer false)
      match scriptFor rig.faults .queueing with
      | some fault =>
        let rig := disposeTag rig transfer.tag .dropped
        recorded.ofSenderMove number rig (rig.sender.resume (.error fault) op)
      | none => recorded.ofSenderMove number rig (rig.sender.resume (.ok ()) op)

/-- What a move of watching a delivery means. -/
def ofWatchMove (world : World) (number : Nat) (rig : LinkRig) :
    Move Link.Sender Link.Sender.Watch Unit → Turn
  | .go sender watch => .go (world.putLink number { rig with sender }) (.watching number watch)
  | .done sender _ => .done (world.putLink number { rig with sender }) .nothing

/-- Play the watching of a delivery. -/
def playWatching (world : World) (number : Nat) (watch : Link.Sender.Watch) : Turn :=
  match world.links[number]? with
  | none => .done world .nothing
  | some rig =>
    match watch with
    | .feeding _ _ =>
      match watch.feedback? with
      | some (messageId, feedback) =>
        .push world (.watching number watch)
          (.session 0 (.begin (.sendFeedback messageId feedback)))
      | none => .done world .nothing
    | .waiting delivery =>
      if rig.sender.isDecided delivery then world.ofWatchMove number rig (rig.sender.watchStep watch)
      else .blocked

/-- Play a link that answers a call. -/
def playLinkCall (world : World) (number : Nat) (call : LinkCall) (due : Option Alarm) : Turn :=
  if due.any world.isDue then
    match world.links[number]? with
    | some rig =>
      match scriptFor rig.faults call with
      | some fault => .done world (.unit (.error fault))
      | none => .done world (.unit (.ok ()))
    | none => .done world .nothing
  else .blocked

/-! ## Tasks -/

/-- Whether a result is one of success. -/
def succeeded : Outcome → Bool
  | .flag value => value
  | .registry (.closed clean) => clean
  | _ => false

/-- Play a frame that waits for tasks. -/
def playGathering (world : World) (tasks : List Nat) (counts : Bool) : Turn :=
  match tasks.mapM world.outcome? with
  | some outcomes =>
    let cleared := { world with
      tasks := world.tasks.filter fun task => !tasks.contains task.number }
    if counts then .done cleared (.count (outcomes.countP succeeded))
    else .done cleared (.all outcomes)
  | none => .blocked

/-- Whether what a script waits for has happened. -/
def hasReached (world : World) (goal : Goal) : Bool :=
  match world.uplink? 0, goal with
  | none, _ => false
  | some uplink, .announced count => count ≤ uplink.announced.length
  | some _, .called count => count ≤ world.called
  | some uplink, .published count =>
    count ≤ uplink.outbox.countP fun publication =>
      publication.connection + 1 == uplink.connections
  | some uplink, .subscribed => uplink.gate.connection.isSome

/-- Play a frame that waits for something. -/
def playAwaiting (world : World) (goal : Goal) (due : Alarm) : Turn :=
  if world.hasReached goal then .done world (.flag true)
  else if world.isDue due then .done world (.flag false)
  else .blocked

/-- Play a frame that runs commands on a session of the registry. -/
def playCommands (world : World) (session : Nat) (rest : List Session.Command)
    (result : Answer Unit) : Turn :=
  match rest with
  | [] => .done world (.unit result)
  | command :: rest =>
    .push world (.commands session rest result)
      (.registry (.onSession .request session (.begin command)))

/-! ## Conclusions -/

/-- Show a session to whoever runs the script. -/
def introduce (world : World) (number : Nat) : World × (Nat × Bool) :=
  let active := world.registry.isActive number
  match world.seen.findIdx? (· == some number) with
  | some place => (world, (place, active))
  | none => ({ world with seen := world.seen ++ [some number] }, (world.seen.length, active))

/-- What becomes of a result at the end of a step. -/
def conclude (world : World) (outcome : Outcome) : Conclusion → Turn
  | .subscribed =>
    match outcome with
    | .session (.done answer) => .done world (.subscribed answer false)
    | outcome => .done world outcome
  | .obtained =>
    match outcome with
    | .registry (.found (.ok number)) =>
      let (world, proxy) := world.introduce number
      .done world (.obtained (.ok proxy))
    | .registry (.found (.error fault)) => .done world (.obtained (.error fault))
    | outcome => .done world outcome
  | .awaitAnnounced count patience =>
    let (world, due) := world.setAlarm patience
    .push world (.concluding (.known outcome)) (.awaiting (.announced (count + 1)) due)
  | .plain =>
    match outcome with
    | .registry (.session result) => .done world (.session result)
    | .registry (.closed clean) => .done world (.flag clean)
    | outcome => .done world outcome
  | .known outcome => .done world outcome

end World

end DeviceGateway.Bench
