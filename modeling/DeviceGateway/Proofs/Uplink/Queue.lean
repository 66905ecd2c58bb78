/-
# The queue of a client

Messages to a device come into the queue of its client in the order in which they arrive, and calls take
them from its front.  A message that finds the queue full is dropped; nothing else is ever lost, doubled
or overtaken: what the calls have returned, followed by what the queue holds, is what found room on
arrival.
-/

import DeviceGateway.Proofs.Uplink.Run

namespace DeviceGateway

namespace Uplink

/-! ## What is received -/

/-- The message that a call returned. -/
def Note.received? : Note → Option HubMessage
  | .ended (.received (.ok message)) => message
  | _ => none

/-- The messages among what can be seen. -/
def receivedIn (notes : List Note) : List HubMessage := notes.filterMap Note.received?

/-- The messages that the calls of a run have returned, from the first on. -/
def receivedOf (run : Run) : List HubMessage := receivedIn (run.log.map Prod.snd)

@[simp]
theorem receivedIn_append (first second : List Note) :
    receivedIn (first ++ second) = receivedIn first ++ receivedIn second :=
  List.filterMap_append

theorem receivedOf_enter (run : Run) (op : Op) (notes : List Note) :
    receivedOf (run.enter op notes) = receivedOf run ++ receivedIn notes := by
  simp [receivedOf, Crew.enter, Function.comp_def]

theorem receivedOf_follow (run : Run) (member : Nat) (move : Move Uplink Op ClientAnswer)
    (notes : List Note) :
    receivedOf (run.follow member move notes) = receivedOf run ++ receivedIn notes := by
  simp [receivedOf, Crew.follow, Function.comp_def]

theorem receivedOf_drift (run : Run) (state : Uplink) (notes : List Note) :
    receivedOf (run.drift state notes) = receivedOf run ++ receivedIn notes := by
  simp [receivedOf, Crew.drift, Function.comp_def]

/-- On its way, a call returns nothing. -/
@[simp]
theorem receivedIn_seen (uplink : Uplink) (op : Op) : receivedIn (uplink.seen op) = [] := by
  unfold seen
  split
  case h_1 | h_2 => rfl
  case h_3 => split <;> rfl
  case h_4 requestId => cases uplink.reply? requestId <;> rfl
  case h_5 => rfl

/-! ## What a move does to the queue -/

/-- A client keeps its routes and its settings, and what is returned was in front of its queue. -/
structure Yields (before : Uplink) (returned : List HubMessage) (after : Uplink) : Prop where
  router : after.router = before.router
  settings : after.settings = before.settings
  queue : returned ++ after.queue = before.queue

theorem Yields.refl (uplink : Uplink) : Yields uplink [] uplink := ⟨rfl, rfl, rfl⟩

theorem yields_publish (uplink : Uplink) (topic : String) (payload : Bytes) :
    Yields uplink [] (uplink.publish topic payload).1 := by
  unfold publish
  split
  case h_1 => exact .refl uplink
  case h_2 => split <;> exact ⟨rfl, rfl, rfl⟩

theorem yields_onTurn (uplink : Uplink) (turn : Turn) : Yields uplink [] (uplink.onTurn turn) := by
  cases turn with
  | broken =>
    simp only [onTurn, breakConnection]
    split <;> exact ⟨rfl, rfl, rfl⟩
  | _ => exact ⟨rfl, rfl, rfl⟩

theorem yields_close (uplink : Uplink) : Yields uplink [] uplink.close := by
  unfold close
  split <;> exact ⟨rfl, rfl, rfl⟩

/-- The end of a twin request returns no message. -/
@[simp]
theorem received?_refusal (request : TwinRequest) (fault : Fault) :
    (Note.ended (request.refusal fault)).received? = none := by
  cases request <;> rfl

@[simp]
theorem received?_conclude (uplink : Uplink) (reply : TwinReply) (request : TwinRequest) :
    (Note.ended (uplink.conclude reply request)).received? = none := by
  unfold conclude
  split
  case h_1 => exact received?_refusal ..
  case h_2 => split <;> [rfl; (split <;> rfl)]

theorem yields_start (uplink : Uplink) (call : ClientCall) :
    Yields uplink (receivedIn (endOf (uplink.start call))) (uplink.start call).state := by
  cases call with
  | getTwin | updateReported patch | send message | sendBatch messages | receive timeout =>
    exact ⟨rfl, rfl, rfl⟩
  | feedback status messageId => cases status <;> exact .refl uplink
  | setCallback kind callback => cases kind <;> exact ⟨rfl, rfl, rfl⟩
  | close => exact yields_close uplink

theorem yields_step (uplink : Uplink) (op : Op) :
    Yields uplink (receivedIn (endOf (uplink.step op))) (uplink.step op).state := by
  cases op with
  | begin call => exact yields_start uplink call
  | sending messages =>
    cases messages with
    | nil => exact .refl uplink
    | cons message rest =>
      have kept := yields_publish uplink (Topic.Hub.telemetry uplink.identity message) message.body
      simp only [step]
      split
      case h_1 state _ published | h_2 state _ published =>
        rw [published] at kept
        exact kept
  | publishing request requestId =>
    have kept := yields_publish uplink (request.topic requestId) request.payload
    simp only [step]
    split
    case h_1 state _ published | h_2 state _ published =>
      rw [published] at kept
      exact kept
  | abandoning request requestId fault =>
    exact ⟨rfl, rfl, by simp [step, forget, endOf, receivedIn]⟩
  | awaiting request requestId =>
    simp only [step]
    split
    case h_1 => exact ⟨rfl, rfl, by simp [forget, endOf, receivedIn]⟩
    case h_2 => split <;> exact ⟨rfl, rfl, by simp [endOf, receivedIn]⟩
  | inLine ticket timeout =>
    simp only [step]
    split <;> exact .refl uplink
  | receiving ticket timeout =>
    simp only [step]
    split
    case isTrue => exact ⟨rfl, rfl, rfl⟩
    case isFalse =>
      split
      case h_1 message rest found => exact ⟨rfl, rfl, found.symm⟩
      case h_2 => exact .refl uplink

/-- Every move takes what it returns from the front of the queue, and puts nothing in. -/
theorem yields_of_moves {uplink : Uplink} {op : Op} {move : Move Uplink Op ClientAnswer}
    (moved : Moves uplink op move) :
    Yields uplink (receivedIn (uplink.seen op ++ endOf move)) move.state := by
  rw [receivedIn_append, receivedIn_seen, List.nil_append]
  cases moved with
  | step can => exact yields_step uplink op
  | timeUp stuck waits =>
    cases op with
    | awaiting request requestId => exact ⟨rfl, rfl, by simp [timeUp, forget, endOf, receivedIn]⟩
    | receiving ticket timeout => exact ⟨rfl, rfl, rfl⟩
    | _ => exact .refl uplink
  | givenUp receives => cases op <;> exact ⟨rfl, rfl, rfl⟩

/-! ## What arrives -/

/-- The message that a publication of the hub brings to the queue of a client. -/
def messageOf? (uplink : Uplink) (topic : String) (payload : Bytes) : Option HubMessage :=
  match uplink.router.route topic with
  | some .deviceMessages => (Topic.Hub.parseDeviceMessage topic payload).toOption
  | _ => none

theorem messageOf?_of_route_ne {uplink : Uplink} {topic : String}
    (other : uplink.router.route topic ≠ some .deviceMessages) (payload : Bytes) :
    uplink.messageOf? topic payload = none := by
  unfold messageOf?
  split
  case h_1 same => exact absurd same other
  case h_2 => rfl

/-- The message that an event brings and that finds room in the queue. -/
def roomFor? (uplink : Uplink) : Event → Option HubMessage
  | .arrives topic payload =>
    if uplink.queue.length < uplink.settings.queueBound then uplink.messageOf? topic payload else none
  | _ => none

/-- The messages that arrive in the further run of a client and find room, in the order of arrival. -/
def kept (run : Run) : List Event → List HubMessage
  | [] => []
  | event :: events => (run.state.roomFor? event).toList ++ kept (act run event) events

/-- What a publication brings to a destination that is not the queue leaves the queue alone. -/
theorem queue_acceptFor_of_ne (uplink : Uplink) {destination : Destination}
    (other : destination ≠ .deviceMessages) (topic : String) (payload : Bytes) :
    (uplink.acceptFor destination topic payload).1.queue = uplink.queue := by
  cases destination with
  | twinResponses =>
    simp only [acceptFor, deliverReply]
    split <;> [(split <;> rfl); rfl]
  | desiredPatches | methodRequests =>
    simp only [acceptFor]
    split <;> rfl
  | deviceMessages => exact absurd rfl other

/-- A publication adds the message that it brings to the end of the queue, if there is room, and changes
the queue in no other way. -/
theorem queue_accept (uplink : Uplink) (topic : String) (payload : Bytes) :
    (uplink.accept topic payload).1.queue =
      uplink.queue ++ (uplink.roomFor? (.arrives topic payload)).toList := by
  cases routed : uplink.router.route topic with
  | none => simp [accept, roomFor?, messageOf?, routed]
  | some destination =>
    by_cases own : destination = .deviceMessages
    · subst own
      cases parsed : Topic.Hub.parseDeviceMessage topic payload with
      | error fault =>
        simp [accept, acceptFor, roomFor?, messageOf?, routed, parsed, Except.toOption]
      | ok message =>
        by_cases room : uplink.queue.length < uplink.settings.queueBound <;>
          simp [accept, acceptFor, roomFor?, messageOf?, routed, parsed, Except.toOption, enqueue, room]
    · have bare : uplink.messageOf? topic payload = none :=
        messageOf?_of_route_ne (by simpa [routed] using own) payload
      simp [accept, roomFor?, routed, bare, queue_acceptFor_of_ne uplink own]

theorem settings_accept (uplink : Uplink) (topic : String) (payload : Bytes) :
    (uplink.accept topic payload).1.settings = uplink.settings ∧
      (uplink.accept topic payload).1.router = uplink.router := by
  rcases state_accept uplink topic payload with same | ⟨_, _, answer⟩ | ⟨message, queued⟩
  · rw [same]
    exact ⟨rfl, rfl⟩
  · rw [answer, deliverReply]
    split <;> exact ⟨rfl, rfl⟩
  · rw [queued, enqueue]
    split <;> exact ⟨rfl, rfl⟩

/-! ## Runs -/

/-- What one event does to the messages: it may bring one that finds room, and it may move some from the
front of the queue to those that were returned. -/
structure Queues (before : Run) (event : Event) (after : Run) : Prop where
  router : after.state.router = before.state.router
  settings : after.state.settings = before.state.settings
  order : receivedOf after ++ after.state.queue =
    receivedOf before ++ before.state.queue ++ (before.state.roomFor? event).toList
  bounded : before.state.queue.length ≤ before.state.settings.queueBound →
    after.state.queue.length ≤ before.state.settings.queueBound

theorem Yields.queues {run after : Run} {event : Event} (notes : List Note) {state : Uplink}
    (yields : Yields run.state (receivedIn notes) state) (bare : run.state.roomFor? event = none)
    (reached : after.state = state) (told : receivedOf after = receivedOf run ++ receivedIn notes) :
    Queues run event after := by
  subst reached
  constructor
  case router => exact yields.router
  case settings => exact yields.settings
  case order => rw [told, bare, List.append_assoc, yields.queue, Option.toList_none, List.append_nil]
  case bounded =>
    intro within
    rw [← yields.queue, List.length_append] at within
    omega

theorem queues_act (run : Run) (event : Event) : Queues run event (act run event) := by
  have moves : ∀ member rule, run.state.roomFor? event = none →
      (∀ op move notes, rule op = some (move, notes) →
        Moves run.state op move ∧ notes = run.state.seen op ++ endOf move) →
      Queues run event (run.advance member rule) := by
    intro member rule bare sound
    apply Crew.advance_induction
    case now => exact (Yields.refl run.state).queues [] bare rfl (List.append_nil _).symm
    case moved =>
      intro op move notes _ allowed
      obtain ⟨moved, rfl⟩ := sound op move notes allowed
      exact (yields_of_moves moved).queues _ bare rfl (receivedOf_follow ..)
  cases event with
  | begins call => exact (Yields.refl run.state).queues [] rfl rfl (receivedOf_enter ..)
  | steps member => exact moves member _ rfl fun _ _ _ => moves_of_onStep
  | timesOut member => exact moves member _ rfl fun _ _ _ => moves_of_onTimeUp
  | givesUp member => exact moves member _ rfl fun _ _ _ => moves_of_onGivingUp
  | responds requestId response =>
    exact (yields_publish ..).queues [] rfl rfl (receivedOf_drift ..)
  | turns turn => exact (yields_onTurn ..).queues [] rfl rfl (receivedOf_drift ..)
  | arrives topic payload =>
    have grown := queue_accept run.state topic payload
    constructor
    case router => exact (settings_accept ..).2
    case settings => exact (settings_accept ..).1
    case order =>
      rw [act, receivedOf_drift, Crew.state_drift, grown]
      simp [receivedIn, Note.received?]
    case bounded =>
      intro within
      rw [act, Crew.state_drift, grown, List.length_append, roomFor?]
      split
      case isTrue room =>
        have single := Option.length_toList_le (o := run.state.messageOf? topic payload)
        omega
      case isFalse => simpa using within

/-- What the calls have returned, followed by the queue, grows by the messages that find room. -/
theorem received_append_queue_onward (run : Run) (events : List Event) :
    receivedOf (onward run events) ++ (onward run events).state.queue =
      receivedOf run ++ run.state.queue ++ kept run events := by
  induction events generalizing run with
  | nil => simp [onward, kept]
  | cons event events ih =>
    have first := (queues_act run event).order
    calc receivedOf (onward run (event :: events)) ++ (onward run (event :: events)).state.queue
      _ = receivedOf (act run event) ++ (act run event).state.queue ++ kept (act run event) events :=
        ih (act run event)
      _ = receivedOf run ++ run.state.queue ++ kept run (event :: events) := by
        rw [first, kept, List.append_assoc]

/-- The queue never becomes longer than its bound. -/
theorem length_queue_onward {run : Run}
    (within : run.state.queue.length ≤ run.state.settings.queueBound) (events : List Event) :
    (onward run events).state.queue.length ≤ run.state.settings.queueBound := by
  induction events generalizing run with
  | nil => exact within
  | cons event events ih =>
    have first := queues_act run event
    have later := ih (by rw [first.settings]; exact first.bounded within)
    rw [first.settings] at later
    exact later

end Uplink

end DeviceGateway
