/-
# Runs of a registry with its clients

A registry that keeps its sessions, the client of each session with its supervisor, and all operations
on them, in one run.  What the registry takes for one step is taken apart here where a client can come in
between: the provider has created a client, whose supervisor is at work from then on; the registry begins
to hear what the client announces; the session is mapped.  The calls of the sessions are calls of the
clients, and what a client announces is told to the registry in an event of its own, which the supervisor
waits for.

An announcement that is told before the registry hears the client is told to nobody.

The answers to the receive calls of the inboxes come with the events, as in the runs of a registry.
-/

import DeviceGateway.Proofs.Registry.OneActive
import DeviceGateway.Proofs.Uplink.Refusal

namespace DeviceGateway

/-- A client with its supervisor. -/
structure Station where
  uplink : Uplink
  supervisor : Uplink.Supervisor
  /-- Whether the registry hears what the client announces. -/
  heard : Bool := false
  /-- How many announcements were told, to the registry or to nobody. -/
  told : Nat := 0

/-- A registry with the clients of its sessions, which have the numbers of the sessions. -/
structure Fleet where
  registry : Registry
  stations : List Station := []

namespace Fleet

open Registry (Result)

/-- A registry in which no session was made yet. -/
def fresh (receiveTimeout : Nat) : Fleet := { registry := .fresh receiveTimeout }

/-- The position of an operation. -/
inductive Op where
  /-- The operation is the registry's to move. -/
  | plain (op : Registry.Op)
  /-- A client was created; the registry is to hear what it announces. -/
  | attaching (identity : Identity) (ticket number : Nat)
  /-- The session of the new client is to be mapped. -/
  | mapping (identity : Identity) (ticket number : Nat)
  /-- The client of a session is at work on a call. -/
  | calling (purpose : Registry.Purpose) (number : Nat) (op : Session.Op) (call : Uplink.Op)

/-- Where an operation is for the registry, which makes a session in one step. -/
def Op.base : Op → Registry.Op
  | plain op => op
  | attaching identity ticket _ | mapping identity ticket _ => .creating identity ticket
  | calling purpose number op _ => .onSession purpose number op

/-- Whether an operation holds the session with a number. -/
def Op.holds (number : Nat) : Op → Bool
  | plain (.onSession _ other _) | plain (.leave _ (.ok other)) | attaching _ _ other
  | mapping _ _ other | calling _ other _ _ => other == number
  | plain _ => false

/-- What can be seen of the operations. -/
inductive Note where
  | begun (op : Registry.Op)
  /-- The provider has created the client with a number, or failed. -/
  | provided (answer : Answer Nat)
  | called (number : Nat) (call : ClientCall)

/-- A registry and its clients with the operations at work on them. -/
abbrev Run := Crew Fleet Op Result Note

/-- What happens in a run. -/
inductive Event where
  /-- Somebody asks for a session of an identity. -/
  | finds (identity : Identity)
  | closes (identity : Identity)
  | closesAll
  /-- The owner of a session asks something of it. -/
  | requests (number : Nat) (command : Session.Command)
  /-- An operation takes a step, and so does the client that is at work on its call; `stamp` is the text
  of the present time. -/
  | steps (member : Nat) (stamp : String)
  /-- The time is up for a call. -/
  | timesOut (member : Nat) (stamp : String)
  /-- The provider has created a client with its settings and routes, or failed to. -/
  | provides (member : Nat) (answer : Answer (Settings.Hub × Topic.Router Uplink.Destination))
  | supervises (number : Nat) (input : Uplink.Supervisor.Input)
  /-- The next announcement of a client is told; `kept` says whether anybody outside of the run holds
  its session. -/
  | tells (number : Nat) (kept : Bool)
  | arrives (number : Nat) (topic : String) (payload : Bytes)
  | responds (number : Nat) (requestId : String) (response : MethodResponse)
  | breaks (number : Nat)
  /-- A client is given up whose session nobody holds. -/
  | drops (number : Nat)
  | loops (number inbox : Nat) (event : Inbox.LoopEvent)

/-- The operation that an event lets move. -/
def Event.member? : Event → Option Nat
  | steps member _ | timesOut member _ | provides member _ => some member
  | _ => none

/-- The client or the session with which something happens. -/
def Event.number? : Event → Option Nat
  | requests number _ | supervises number _ | tells number _ | arrives number _ _
  | responds number _ _ | breaks number | drops number | loops number _ _ => some number
  | _ => none

/-! ## What happens to a fleet -/

/-- Change the client with a number. -/
def change (fleet : Fleet) (number : Nat) (turn : Station → Station) : Fleet :=
  { fleet with stations := fleet.stations.modify number turn }

/-- Change the client itself, and nothing about its supervisor. -/
def changeUplink (fleet : Fleet) (number : Nat) (turn : Uplink → Uplink) : Fleet :=
  fleet.change number fun station => { station with uplink := turn station.uplink }

/-- A session and its client are there; the session is not mapped yet. -/
def add (fleet : Fleet) (identity : Identity) (settings : Settings.Hub)
    (router : Topic.Router Uplink.Destination) : Fleet where
  registry := { fleet.registry with
    sessions := fleet.registry.sessions ++ [fleet.registry.newSession identity] }
  stations := fleet.stations ++
    [{ uplink := .fresh identity settings router, supervisor := .new settings.retryPolicy }]

/-- Adding a session and mapping it is what the registry does in one step. -/
theorem map_add (fleet : Fleet) (identity : Identity) (settings : Settings.Hub)
    (router : Topic.Router Uplink.Destination) :
    (fleet.add identity settings router).registry.map identity fleet.registry.sessions.length =
      fleet.registry.adopt identity := rfl

/-- A move of the registry. -/
def ofRegistryMove (fleet : Fleet) : Move Registry Registry.Op Result → Move Fleet Op Result
  | .go registry op => .go { fleet with registry } (.plain op)
  | .done registry result => .done { fleet with registry } result

/-- What the move of a client means for the operation that has called it. -/
def ofCallMove (fleet : Fleet) (stamp : String) (purpose : Registry.Purpose) (number : Nat)
    (op : Session.Op) : Move Uplink Uplink.Op ClientAnswer → Move Fleet Op Result
  | .go uplink call =>
    .go (fleet.changeUplink number fun _ => uplink) (.calling purpose number op call)
  | .done uplink answer =>
    (fleet.changeUplink number fun _ => uplink).ofRegistryMove
      (fleet.registry.resume stamp answer (.onSession purpose number op))

def onStep (fleet : Fleet) (stamp : String) : Op → Option (Move Fleet Op Result × List Note)
  | .plain (.onSession purpose number op) =>
    match op.request? with
    | some (.call call) =>
      some (.go fleet (.calling purpose number op (.begin call)), [.called number call])
    | _ => some (fleet.ofRegistryMove (fleet.registry.step (.onSession purpose number op)), [])
  | .plain op =>
    if fleet.registry.canStep op then some (fleet.ofRegistryMove (fleet.registry.step op), [])
    else none
  | .attaching identity ticket number =>
    some (.go (fleet.change number fun station => { station with heard := true })
      (.mapping identity ticket number), [])
  | .mapping identity ticket number =>
    some (.go { fleet with registry := fleet.registry.map identity number }
      (.plain (.leave ticket (.ok number))), [])
  | .calling purpose number op call =>
    match fleet.stations[number]? with
    | some station =>
      if station.uplink.canStep call then
        some (fleet.ofCallMove stamp purpose number op (station.uplink.step call), [])
      else none
    | none => none

def onTimeUp (fleet : Fleet) (stamp : String) : Op → Option (Move Fleet Op Result × List Note)
  | .calling purpose number op call =>
    match fleet.stations[number]? with
    | some station =>
      if !station.uplink.canStep call && (station.uplink.patience? call).isSome then
        some (fleet.ofCallMove stamp purpose number op (station.uplink.timeUp call), [])
      else none
    | none => none
  | _ => none

def onProvision (fleet : Fleet) (answer : Answer (Settings.Hub × Topic.Router Uplink.Destination)) :
    Op → Option (Move Fleet Op Result × List Note)
  | .plain (.creating identity ticket) =>
    match answer with
    | .ok (settings, router) =>
      let number := fleet.registry.sessions.length
      some (.go (fleet.add identity settings router) (.attaching identity ticket number),
        [.provided (.ok number)])
    | .error fault =>
      some (.go fleet (.plain (.leave ticket (.error fault))), [.provided (.error fault)])
  | _ => none

/-- A supervisor gets an input, unless it waits for its last announcement to be told. -/
def supervise (fleet : Fleet) (number : Nat) (input : Uplink.Supervisor.Input) : Fleet :=
  match fleet.stations[number]? with
  | some station =>
    if station.told = station.uplink.announced.length then
      let (uplink, supervisor) := station.supervisor.step station.uplink input
      fleet.change number fun station => { station with uplink, supervisor }
    else fleet
  | none => fleet

/-- The next announcement of a client. -/
def next? (fleet : Fleet) (number : Nat) : Option (Station × ConnectionStatus × StatusReason) :=
  match fleet.stations[number]? with
  | some station => station.uplink.announced[station.told]?.map (station, ·)
  | none => none

/-- The next announcement of a client is told, to the registry if it hears the client. -/
def tell (fleet : Fleet) (number : Nat) (isThere : Bool) : Fleet × Option Registry.Op :=
  match fleet.next? number with
  | some (station, status, reason) =>
    let told := fleet.change number fun station => { station with told := station.told + 1 }
    if station.heard then
      let announced := fleet.registry.announce number status reason isThere
      ({ told with registry := announced.1 }, announced.2)
    else (told, none)
  | none => (fleet, none)

/-- Whether the registry or an operation holds a session. -/
def isHeld (run : Run) (number : Nat) : Bool :=
  (run.state.registry.mapped.any fun entry => entry.2 == number) ||
    run.members.any fun progress =>
      match progress with
      | .running op => op.holds number
      | .ended _ => false

/-- An operation begins. -/
def launch (run : Run) (op : Registry.Op) : Run := run.enter (.plain op) [.begun op]

/-- A run after one more event. -/
def act (run : Run) : Event → Run
  | .finds identity => launch run (.find identity)
  | .closes identity => launch run (.close identity)
  | .closesAll => (run.state.registry.identities.map Registry.Op.close).foldl launch run
  | .requests number command => launch run (.onSession .request number (.begin command))
  | .steps member stamp => run.advance member (run.state.onStep stamp)
  | .timesOut member stamp => run.advance member (run.state.onTimeUp stamp)
  | .provides member answer => run.advance member (run.state.onProvision answer)
  | .supervises number input => run.drift (run.state.supervise number input) []
  | .tells number kept =>
    let (fleet, eviction?) := run.state.tell number (kept || isHeld run number)
    eviction?.toList.foldl launch (run.drift fleet [])
  | .arrives number topic payload =>
    run.drift (run.state.changeUplink number fun uplink => (uplink.accept topic payload).1) []
  | .responds number requestId response =>
    run.drift (run.state.changeUplink number fun uplink => uplink.respond requestId response) []
  | .breaks number => run.drift (run.state.changeUplink number Uplink.breakConnection) []
  | .drops number =>
    if isHeld run number then run
    else run.drift (run.state.changeUplink number Uplink.close) []
  | .loops number inbox event =>
    run.drift { run.state with registry := run.state.registry.onLoop number inbox event } []

def onward (run : Run) (events : List Event) : Run := events.foldl act run

/-- The run of a registry and its clients through a list of events. -/
def run (receiveTimeout : Nat) (events : List Event) : Run :=
  onward { state := fresh receiveTimeout } events

theorem onward_append (run : Run) (events more : List Event) :
    onward run (events ++ more) = onward (onward run events) more :=
  List.foldl_append

theorem run_append (receiveTimeout : Nat) (events more : List Event) :
    run receiveTimeout (events ++ more) = onward (run receiveTimeout events) more :=
  onward_append ..

/-! ## The moves of an operation -/

/-- The moves that an operation can make, with what can be seen of them. -/
inductive Moves (fleet : Fleet) : Op → List Note → Move Fleet Op Result → Prop
  | step {op : Registry.Op} (can : fleet.registry.canStep op = true) :
      Moves fleet (.plain op) [] (fleet.ofRegistryMove (fleet.registry.step op))
  /-- A session calls its client. -/
  | call {purpose : Registry.Purpose} {number : Nat} {op : Session.Op} {call : ClientCall}
      (waits : op.request? = some (.call call)) :
      Moves fleet (.plain (.onSession purpose number op)) [.called number call]
        (.go fleet (.calling purpose number op (.begin call)))
  /-- A client goes on with a call, or answers it. -/
  | client {purpose : Registry.Purpose} {number : Nat} {op : Session.Op} {call : Uplink.Op}
      {station : Station} {move : Move Uplink Uplink.Op ClientAnswer} (stamp : String)
      (held : fleet.stations[number]? = some station)
      (moved : Uplink.Moves station.uplink call move) :
      Moves fleet (.calling purpose number op call) []
        (fleet.ofCallMove stamp purpose number op move)
  | provide (identity : Identity) (ticket : Nat) (settings : Settings.Hub)
      (router : Topic.Router Uplink.Destination) :
      Moves fleet (.plain (.creating identity ticket))
        [.provided (.ok fleet.registry.sessions.length)]
        (.go (fleet.add identity settings router)
          (.attaching identity ticket fleet.registry.sessions.length))
  | fail (identity : Identity) (ticket : Nat) (fault : Fault) :
      Moves fleet (.plain (.creating identity ticket)) [.provided (.error fault)]
        (.go fleet (.plain (.leave ticket (.error fault))))
  | attach (identity : Identity) (ticket number : Nat) :
      Moves fleet (.attaching identity ticket number) []
        (.go (fleet.change number fun station => { station with heard := true })
          (.mapping identity ticket number))
  | map (identity : Identity) (ticket number : Nat) :
      Moves fleet (.mapping identity ticket number) []
        (.go { fleet with registry := fleet.registry.map identity number }
          (.plain (.leave ticket (.ok number))))

variable {fleet : Fleet}

theorem moves_of_onStep {stamp : String} {op : Op} {move : Move Fleet Op Result} {notes : List Note}
    (allowed : fleet.onStep stamp op = some (move, notes)) : Moves fleet op notes move := by
  unfold onStep at allowed
  split at allowed
  case h_1 purpose number op =>
    split at allowed
    case h_1 call waits =>
      obtain ⟨rfl, rfl⟩ := Prod.mk.inj (Option.some.inj allowed)
      exact .call waits
    case h_2 other =>
      obtain ⟨rfl, rfl⟩ := Prod.mk.inj (Option.some.inj allowed)
      refine .step ?_
      cases asks : op.request? with
      | none => simp [Registry.canStep, Registry.Op.request?, asks]
      | some request =>
        cases request with
        | call call => exact absurd asks (other call)
        | report status reason => simp [Registry.canStep, Registry.Op.request?, asks]
  case h_2 op _ =>
    split at allowed
    case isTrue can =>
      obtain ⟨rfl, rfl⟩ := Prod.mk.inj (Option.some.inj allowed)
      exact .step can
    case isFalse => cases allowed
  case h_3 identity ticket number =>
    obtain ⟨rfl, rfl⟩ := Prod.mk.inj (Option.some.inj allowed)
    exact .attach identity ticket number
  case h_4 identity ticket number =>
    obtain ⟨rfl, rfl⟩ := Prod.mk.inj (Option.some.inj allowed)
    exact .map identity ticket number
  case h_5 purpose number op call =>
    split at allowed
    case h_1 station held =>
      split at allowed
      case isTrue can =>
        obtain ⟨rfl, rfl⟩ := Prod.mk.inj (Option.some.inj allowed)
        exact .client stamp held (.step can)
      case isFalse => cases allowed
    case h_2 => cases allowed

theorem moves_of_onTimeUp {stamp : String} {op : Op} {move : Move Fleet Op Result}
    {notes : List Note} (allowed : fleet.onTimeUp stamp op = some (move, notes)) :
    Moves fleet op notes move := by
  unfold onTimeUp at allowed
  split at allowed
  case h_1 purpose number op call =>
    split at allowed
    case h_1 station held =>
      split at allowed
      case isTrue late =>
        obtain ⟨rfl, rfl⟩ := Prod.mk.inj (Option.some.inj allowed)
        obtain ⟨stuck, waits⟩ := Bool.and_eq_true_iff.1 late
        exact .client stamp held (.timeUp (by simpa using stuck) waits)
      case isFalse => cases allowed
    case h_2 => cases allowed
  case h_2 => cases allowed

theorem moves_of_onProvision {answer : Answer (Settings.Hub × Topic.Router Uplink.Destination)}
    {op : Op} {move : Move Fleet Op Result} {notes : List Note}
    (allowed : fleet.onProvision answer op = some (move, notes)) : Moves fleet op notes move := by
  unfold onProvision at allowed
  split at allowed
  case h_1 identity ticket =>
    split at allowed
    case h_1 settings router =>
      obtain ⟨rfl, rfl⟩ := Prod.mk.inj (Option.some.inj allowed)
      exact .provide identity ticket settings router
    case h_2 fault =>
      obtain ⟨rfl, rfl⟩ := Prod.mk.inj (Option.some.inj allowed)
      exact .fail identity ticket fault
  case h_2 => cases allowed

/-! ## What happens outside of the operations -/

/-- What an event can do to the client or the session with a number while no operation moves. -/
inductive Drifts (fleet : Fleet) (event : Event) (number : Nat) : Fleet → Prop
  | rests : Drifts fleet event number fleet
  | changes {turn : Uplink → Uplink} (silent : ∀ uplink, Uplink.Silent uplink (turn uplink)) :
      Drifts fleet event number (fleet.changeUplink number turn)
  | supervises {input : Uplink.Supervisor.Input} (its : event = .supervises number input)
      {station : Station} (held : fleet.stations[number]? = some station)
      (idle : station.told = station.uplink.announced.length) :
      Drifts fleet event number (fleet.change number fun station' => { station' with
        uplink := (station.supervisor.step station.uplink input).1
        supervisor := (station.supervisor.step station.uplink input).2 })
  | tells {kept : Bool} (its : event = .tells number kept) {station : Station}
      {status : ConnectionStatus} {reason : StatusReason}
      (next : fleet.next? number = some (station, status, reason)) (feed : Feed) :
      Drifts fleet event number
        { fleet.change number fun station => { station with told := station.told + 1 } with
          registry := { fleet.registry with feed } }
  | loops (inbox : Nat) (happened : Inbox.LoopEvent) :
      Drifts fleet event number
        { fleet with registry := fleet.registry.onLoop number inbox happened }

theorem drifts_supervise (fleet : Fleet) (number : Nat) (input : Uplink.Supervisor.Input) :
    Drifts fleet (.supervises number input) number (fleet.supervise number input) := by
  unfold supervise
  split
  case h_1 station held =>
    split
    case isTrue idle => exact .supervises rfl held idle
    case isFalse => exact .rests
  case h_2 => exact .rests

/-- An announcement that is heard changes nothing but what the subscriber finds. -/
theorem feed_announce (registry : Registry) (number : Nat) (status : ConnectionStatus)
    (reason : StatusReason) (isThere : Bool) :
    ∃ feed, (registry.announce number status reason isThere).1 = { registry with feed } := by
  unfold Registry.announce
  split
  case h_1 => exact ⟨_, rfl⟩
  case h_2 => exact ⟨registry.feed, rfl⟩

theorem drifts_tell (fleet : Fleet) (number : Nat) (kept isThere : Bool) :
    Drifts fleet (.tells number kept) number (fleet.tell number isThere).1 := by
  unfold tell
  split
  case h_1 station status reason next =>
    split
    case isTrue heard =>
      obtain ⟨feed, same⟩ := feed_announce fleet.registry number status reason isThere
      simp only [same]
      exact .tells rfl next feed
    case isFalse => exact .tells rfl next fleet.registry.feed
  case h_2 => exact .rests

/-- Whatever an announcement starts is the closing of the session of the client that has made it. -/
theorem eviction_of_tell {number : Nat} {isThere : Bool} {op : Registry.Op}
    (starts : (fleet.tell number isThere).2 = some op) :
    op = .onSession .eviction number (.begin .close) := by
  unfold tell at starts
  split at starts
  case h_1 =>
    split at starts
    case isTrue =>
      simp only [Registry.announce] at starts
      split at starts
      case h_1 =>
        split at starts
        case isTrue => exact (Option.some.inj starts).symm
        case isFalse => cases starts
      case h_2 => cases starts
    case isFalse => cases starts
  case h_2 => cases starts

/-! ## Induction on events -/

/-- What is kept when an operation begins, when one moves and when a client or a session drifts is kept
by every event. -/
theorem act_induction {Holds : Run → Prop} {run : Run} {event : Event} (now : Holds run)
    (launches : ∀ run op, op.Begins → Holds run → Holds (launch run op))
    (moves : ∀ member op notes move, event.member? = some member →
      run.members[member]? = some (.running op) → Moves run.state op notes move →
      Holds (run.follow member move notes))
    (drifts : ∀ number state, event.number? = some number → Drifts run.state event number state →
      Holds (run.drift state [])) :
    Holds (act run event) := by
  cases event with
  | finds identity => exact launches run _ (.find identity) now
  | closes identity => exact launches run _ (.close identity) now
  | closesAll =>
    apply List.foldlRecOn (motive := Holds) _ _ now
    intro run holds op member
    obtain ⟨identity, _, rfl⟩ := List.mem_map.1 member
    exact launches run _ (.close identity) holds
  | requests number command => exact launches run _ (.request number command) now
  | steps member stamp =>
    apply Crew.advance_induction now
    exact fun op move notes held allowed => moves member op notes move rfl held (moves_of_onStep allowed)
  | timesOut member stamp =>
    apply Crew.advance_induction now
    exact fun op move notes held allowed =>
      moves member op notes move rfl held (moves_of_onTimeUp allowed)
  | provides member answer =>
    apply Crew.advance_induction now
    exact fun op move notes held allowed =>
      moves member op notes move rfl held (moves_of_onProvision allowed)
  | supervises number input => exact drifts number _ rfl (drifts_supervise ..)
  | tells number kept =>
    have kept := drifts number _ rfl (drifts_tell run.state number kept (kept || isHeld run number))
    apply List.foldlRecOn (motive := Holds) _ _ kept
    intro run holds op member
    obtain rfl := eviction_of_tell (Option.mem_toList.1 member)
    exact launches run _ (.eviction number) holds
  | arrives number topic payload =>
    exact drifts number _ rfl (.changes fun uplink => Uplink.silent_accept uplink topic payload)
  | responds number requestId response =>
    exact drifts number _ rfl (.changes fun uplink => Uplink.silent_respond uplink requestId response)
  | breaks number => exact drifts number _ rfl (.changes Uplink.silent_breakConnection)
  | drops number =>
    simp only [act]
    split
    case isTrue => exact now
    case isFalse => exact drifts number _ rfl (.changes Uplink.silent_close)
  | loops number inbox event => exact drifts number _ rfl (.loops inbox event)

/-- What every event keeps is kept by every list of events. -/
theorem onward_induction {Holds : Run → Prop} (acts : ∀ run event, Holds run → Holds (act run event))
    {run : Run} (now : Holds run) (events : List Event) : Holds (onward run events) :=
  List.foldlRecOn (motive := Holds) events act now fun run holds event _ => acts run event holds

end Fleet

end DeviceGateway
