/-
# Running scripts

The worlds in which scripts begin, and what a script leaves behind step by step.
-/

import DeviceGateway.Bench.Schedule
import DeviceGateway.Uplink.Options

namespace DeviceGateway.Bench

/-- What a step leaves behind. -/
structure StepReport where
  outcome : Outcome
  /-- What was recorded, with the number of the client where it matters. -/
  events : List (Option Nat × Event)
  /-- Whether the session of the script is active. -/
  active : Bool
  /-- What the subscriber of the registry found. -/
  feed : Feed

/-- Whether a step waited in vain. -/
def StepReport.isVain (report : StepReport) : Bool :=
  match report.outcome with
  | .flag false => true
  | _ => false

namespace World

/-- The publications that were not shown yet. -/
def newPublications (world : World) : List Uplink.Publication :=
  match world.uplink? 0 with
  | some uplink => uplink.outbox.drop world.shown
  | none => []

/-- What was recorded since the last report; what was handed to the connection comes last. -/
def newEvents (world : World) : List (Option Nat × Event) :=
  world.log.reverse ++ world.newPublications.map fun publication => (none, .published publication)

/-- The place of an event among those of a step that closes all sessions. -/
def labelOrder (first second : Option Nat × Event) : Bool :=
  match first.1, second.1 with
  | none, _ => true
  | some _, none => false
  | some first, some second => first ≤ second

/-- Run one step and report on it. -/
def report (world : World) (step : Step) : World × StepReport :=
  let (world, outcome) := world.runStep step
  let events := world.newEvents
  let ordered := if world.managed && step.closesAll then events.mergeSort labelOrder else events
  ({ world with
      log := []
      shown := world.shown + world.newPublications.length
      registry := { world.registry with feed := {} } },
    { outcome, events := ordered, active := world.registry.isActive 0, feed := world.registry.feed })

/-- Run a script. -/
def runScript (world : World) : List Step → List StepReport × World
  | [] => ([], world)
  | step :: rest =>
    let (world, first) := world.report step
    let (more, last) := world.runScript rest
    (first :: more, last)

/-- A world with one session and its client. -/
def ofSession (stamp : String) (session : Session) (client : Client) : World :=
  { stamp, managed := false, registry := { sessions := [session] }, clients := [client] }

/-- A world with a registry. -/
def ofRegistry (stamp : String) (receiveTimeout : Nat) : World :=
  { stamp, managed := true, registry := { receiveTimeout } }

/-- A world with a client of the hub and its supervisor, whose connections meet what is given and then
a hub that cannot be reached. -/
def ofSupervisor (stamp : String) (uplink : Uplink)
    (encounters : List (List Uplink.ConnectionEvent)) : World :=
  let world : World := { stamp, managed := false, clients := [.uplink uplink] }
  world.background
    (.supervisor 0 (.new uplink.settings.retryPolicy) encounters [] none)

end World

end DeviceGateway.Bench
