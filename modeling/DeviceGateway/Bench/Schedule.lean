/-
# The schedule of the bench

In which order tasks go on.  The task of the step goes on first; then the background tasks go on one
after the other, in the order in which they could, each until it is blocked.  A task that waits for a
few others lets each of them go on in their order whenever it goes on itself; one that waits for many
lets only those go on that can, in the order in which they could.  When nothing can go on and the step
is not over, the time moves to the next moment for which a frame waits.
-/

import DeviceGateway.Bench.Steps

namespace DeviceGateway.Bench

namespace World

/-! ## Turns -/

/-- What a frame does next. -/
def play (world : World) : Frame → Turn
  | .starting step => world.begin step
  | .session number op => world.playSession number op
  | .registry op => world.playRegistry op
  | .inbox number op => world.playInbox number op
  | .loop place => world.playLoop place
  | .uplink number op due => world.playUplink number op due
  | .job number job => world.playJob number job
  | .dispatch number topic payload => .done (world.route number topic payload).1 .nothing
  | .supervisor number supervisor encounters present due =>
    world.playSupervisor number supervisor encounters present due
  | .scripted number call due =>
    if !world.isDue due then .blocked
    else
      let (world, answer) := world.answerScripted number call
      .done world (.client answer)
  | .arrival number ticket timeout due => world.playArrival number ticket timeout due
  | .creating due => world.playCreating due
  | .sending number op => world.playSending number op
  | .watching number watch => world.playWatching number watch
  | .linkCall number call due => world.playLinkCall number call due
  | .opening _ _ => .blocked
  | .sleeping due => if world.isDue due then .done world .nothing else .blocked
  | .gathering tasks counts => world.playGathering tasks counts
  | .joining task =>
    match world.outcome? task with
    | some outcome => .done world outcome
    | none => .blocked
  | .awaiting goal due => world.playAwaiting goal due
  | .concluding _ => .blocked
  | .commands session rest result => world.playCommands session rest result

/-- What a frame does with the result of the frame above it. -/
def resume (world : World) (outcome : Outcome) : Frame → Turn
  | .session number op =>
    match world.registry.sessions[number]?, outcome with
    | some session, .client answer =>
      world.ofSessionMove number (session.resume world.stamp answer op)
    | _, _ => .done world .nothing
  | .registry op =>
    match outcome with
    | .unit answer => world.ofRegistryMove (world.registry.created answer op)
    | .client answer => world.ofRegistryMove (world.registry.resume world.stamp answer op)
    | _ => .done world .nothing
  | .inbox number op =>
    match world.receivers[number]?, outcome with
    | some inbox, .client answer => world.ofInboxMove number (inbox.resume answer.outcome op)
    | _, _ => .done world .nothing
  | .loop place => world.resumeLoop place outcome
  | .sending number op =>
    match world.links[number]?, outcome with
    | some rig, .unit answer => world.ofSenderMove number rig (rig.sender.resume answer op)
    | _, _ => .done world .nothing
  | .watching number watch =>
    match world.links[number]?, outcome with
    | some rig, .session (.done answer) =>
      world.ofWatchMove number rig (rig.sender.watchResume answer watch)
    | _, _ => .done world .nothing
  | .concluding conclusion => world.conclude outcome conclusion
  | .commands session rest result =>
    match outcome with
    | .registry (.session (.done answer)) => .go world (.commands session rest (result.and answer))
    | _ => .go world (.commands session rest result)
  | _ => .done world outcome

/-- Put what a frame does next into its task; `below` are the frames below it. -/
def follow (world : World) (task : Task) (below : List Frame) : Turn → World
  | .blocked => world
  | .go world frame => world.putTask { task with stack := frame :: below }
  | .push world frame callee => world.putTask { task with stack := callee :: frame :: below }
  | .done world outcome =>
    match below with
    | [] => world.putTask { task with stack := [], outcome := some outcome }
    | frame :: below => world.follow task below (world.resume outcome frame)

/-! ## Interruptions -/

/-- Give up a frame that waits. -/
def abandon (world : World) : Frame → World
  | .uplink number op _ =>
    match world.uplink? number with
    | some uplink => world.putUplink number (uplink.giveUp op)
    | none => world
  | .arrival number ticket _ _ => world.leaveReceivers number ticket
  | _ => world

/-- The receive loop at the bottom of a stack, if it waits and its inbox is closed. -/
def interruptedLoop? (world : World) (stack : List Frame) : Option (Place × Inbox) :=
  match stack.getLast? with
  | some (.loop place) =>
    if stack.length ≤ 1 then none
    else
      match world.inbox? place with
      | some inbox =>
        if inbox.cancelled && inbox.interrupted.loop.isNone then some (place, inbox) else none
      | none => none
  | _ => none

/-- End a receive loop that is interrupted. -/
def interruptLoop (world : World) (task : Task) (place : Place) (inbox : Inbox) : World :=
  ((task.stack.foldl abandon world).putInbox place inbox.interrupted).putTask
    { task with stack := [.loop place] }

/-- The frames from the first opening on whose time is up. -/
def overdue? (world : World) : List Frame → Option (Nat × List Frame)
  | [] => none
  | .opening timeout due :: below =>
    if world.isDue due then some (timeout, below) else world.overdue? below
  | _ :: below => world.overdue? below

/-- One turn of a task, if it can go on. -/
def turn? (world : World) (task : Task) : Option World :=
  if task.outcome.isSome then none
  else
    match world.interruptedLoop? task.stack with
    | some (place, inbox) => some (world.interruptLoop task place inbox)
    | none =>
      match task.stack with
      | [] => none
      | frame :: below =>
        match world.play frame with
        | .blocked =>
          match world.overdue? task.stack with
          | some (timeout, below) =>
            some (world.follow task below
              (.done world (.unit (.error (Link.Sender.openFault timeout)))))
          | none => none
        | turn => some (world.follow task below turn)

/-! ## The order of tasks -/

/-- The tasks for which a task waits. -/
def partsOf (task : Task) : List Nat :=
  match task.stack with
  | .gathering tasks _ :: _ => tasks
  | _ => []

/-- Whether a task can go on, or one for which it waits; `depth` bounds how often tasks wait for
tasks. -/
def canGoOn (world : World) (task : Task) : (depth : Nat) → Bool
  | 0 => false
  | depth + 1 =>
    (world.turn? task).isSome ||
      (partsOf task).any fun number =>
        match world.task? number with
        | some part => world.canGoOn part depth
        | none => false

/-- More tasks than wait for one another. -/
def greatestDepth : Nat := 100

/-- Whether a task has a place of its own in the order of those that can go on. -/
def hasPlace (task : Task) : Bool := task.role = .background || task.role = .oneOfMany

/-- Put tasks behind those that can go on, except those that are there already. -/
def line (world : World) (numbers : List Nat) : World :=
  { world with ready := world.ready ++ numbers.filter fun number => !world.ready.contains number }

/-- Note the tasks that can go on, except those that are going on. -/
def wake (world : World) (goingOn : List Nat) : World :=
  let awake := world.tasks.filter fun task =>
    hasPlace task && !goingOn.contains task.number && !world.ready.contains task.number &&
      world.canGoOn task greatestDepth
  world.line (awake.map Task.number)

/-- How many of several tasks are not over. -/
def unfinished (world : World) (numbers : List Nat) : Nat :=
  numbers.countP fun number => (world.outcome? number).isNone

mutual

/-- Let a task go on until it is blocked, and with it the tasks for which it waits.  The tasks `outer`
are going on as well. -/
def poll (world : World) (number : Nat) (outer : List Nat) : (turns : Nat) → World
  | 0 => world
  | turns + 1 =>
    match world.task? number with
    | none => world
    | some task =>
      match world.turn? task with
      | some next => (next.wake (number :: outer)).poll number outer turns
      | none =>
        let parts := partsOf task
        let polled :=
          if parts.length ≤ fewTasks then
            parts.foldl (fun world part => world.poll part (number :: outer) turns) world
          else world.pollMany parts (number :: outer) 0 (world.unfinished parts) turns
        if (polled.turn? task).isSome then polled.poll number outer turns else polled

/-- Let those of many tasks go on that can, in the order in which they could.  It is enough for now when
as many have been blocked in a row as are `left`. -/
def pollMany (world : World) (parts outer : List Nat) (blocked left : Nat) : (turns : Nat) → World
  | 0 => world
  | turns + 1 =>
    match world.ready.find? parts.contains with
    | none => world
    | some part =>
      let polled := (({ world with ready := world.ready.erase part }).poll part outer turns).wake outer
      if (polled.outcome? part).isSome then polled.pollMany parts outer 0 (left - 1) turns
      else if blocked + 1 < left then polled.pollMany parts outer (blocked + 1) left turns
      else polled

end

/-- Forget background tasks that are over, unless a step has started them. -/
def sweep (world : World) : World :=
  let kept := world.tasks.filter fun task =>
    task.role != .background || task.outcome.isNone || world.started.contains task.number
  { world with
    tasks := kept
    ready := world.ready.filter fun number => kept.any fun task => task.number == number }

/-- The first background task that can go on. -/
def firstReady? (world : World) : Option Nat :=
  world.ready.find? fun number => (world.task? number).any fun task => task.role = .background

/-- Let the background tasks that can go on do so. -/
def drain (world : World) (turns : Nat) : (polls : Nat) → World
  | 0 => world
  | polls + 1 =>
    match world.firstReady? with
    | none => world.sweep
    | some number =>
      ((({ world with ready := world.ready.erase number }).poll number [] turns).wake []).drain turns
        polls

/-- Let everything go on that can without the time moving, the task of the step first. -/
def settle (world : World) (number turns : Nat) : (rounds : Nat) → World
  | 0 => world
  | rounds + 1 =>
    let drained := (world.poll number [] turns).drain turns turns
    match drained.task? number with
    | some task =>
      if drained.canGoOn task greatestDepth then drained.settle number turns rounds else drained
    | none => drained

/-! ## Time -/

/-- The alarm for which a frame waits. -/
def alarmOf? : Frame → Option Alarm
  | .uplink _ _ due | .supervisor _ _ _ _ due | .linkCall _ _ due | .arrival _ _ _ due => due
  | .scripted _ _ due | .creating due | .opening _ due | .sleeping due | .awaiting _ due => some due
  | _ => none

/-- The alarms for which a task waits. -/
def alarmsOf (task : Task) : List Alarm := task.stack.filterMap alarmOf?

/-- The next moment for which a task waits. -/
def nextMoment? (world : World) : Option Nat :=
  ((world.tasks.flatMap fun task => (alarmsOf task).map Alarm.moment).filter (world.now < ·)).min?

/-- The rank of the first alarm that goes off now for a task or for one for which it waits. -/
def rank? (world : World) (task : Task) : (depth : Nat) → Option Nat
  | 0 => none
  | depth + 1 =>
    let own := ((alarmsOf task).filter fun alarm => alarm.moment == world.now).map Alarm.rank
    let ofParts := (partsOf task).filterMap fun number =>
      (world.task? number).bind fun part => world.rank? part depth
    (own ++ ofParts).min?

/-- Let the time move to a moment; the tasks that wait for it can go on in the order of their alarms. -/
def moveTo (world : World) (moment : Nat) : World :=
  let moved := { world with now := moment }
  let called := (moved.tasks.filter hasPlace).filterMap fun task =>
    (moved.rank? task greatestDepth).map fun rank => (rank, task.number)
  moved.line ((called.mergeSort fun first second => first.1 ≤ second.1).map Prod.snd)

/-- Run until a task is over, and everything that can go on then. -/
def runTask (world : World) (number turns : Nat) : (moments : Nat) → World × Outcome
  | 0 => (world, .nothing)
  | moments + 1 =>
    let settled := (world.wake []).settle number turns turns
    match settled.outcome? number with
    | some outcome => (settled, outcome)
    | none =>
      match settled.nextMoment? with
      | some moment => (settled.moveTo moment).runTask number turns moments
      | none => (settled, .nothing)

/-- More turns than a script takes. -/
def greatestTurns : Nat := 1000000

/-- Forget what was mapped in a registry that does not exist any more. -/
def clearReleased (world : World) : World :=
  if world.registryIsThere then world
  else { world with registry := { world.registry with mapped := [] } }

/-- Run a step of a script. -/
def runStep (world : World) (step : Step) : World × Outcome :=
  let (begun, number) := world.spawn .step (.starting step)
  let (finished, outcome) := begun.runTask number greatestTurns greatestTurns
  let rest : World :=
    { finished with tasks := finished.tasks.filter fun task => task.role != .step }
  (rest.clearReleased, outcome)

end World

end DeviceGateway.Bench
