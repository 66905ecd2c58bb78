/-
# From the queue to the listener

The receive loop of an inbox hands the messages that its client returns to the listener, one at a time and
each of them once, in the order in which they were returned.  What comes of handing one over does not
matter to the next.  An empty answer and a transient fault cost no message and do not end the loop; any
other fault ends it, and a loop may then be started anew.

Operations on the inbox go on beside the loop.  A turn of an operation is any step of it at any time, so
that every way of running operations beside the loop is a list of turns.
-/

import DeviceGateway.Proofs.Session.Slot
import DeviceGateway.Proofs.Since
import DeviceGateway.Proofs.Uplink.Queue

namespace DeviceGateway

namespace Inbox

/-- What happens to an inbox. -/
inductive Turn where
  /-- An operation takes a step. -/
  | operates (op : Op)
  /-- An operation is told what its client has answered. -/
  | resumes (op : Op) (answer : Answer Unit)
  /-- The client answers the receive call of the loop. -/
  | returns (answer : Answer (Option HubMessage))
  /-- The listener has handled a message, well or not. -/
  | handles (outcome : Answer Unit)
  /-- The pause of the loop is over. -/
  | pauses
  /-- The loop gives up a wait, since the inbox is closed. -/
  | interrupts

/-- What can be seen of a receive loop. -/
inductive Sight where
  /-- A loop was started where none ran. -/
  | launched
  /-- The client returned an answer to the loop. -/
  | returned (answer : Answer (Option HubMessage))
  /-- The listener was given a message. -/
  | handed (message : Message)
deriving DecidableEq

/-- An inbox with what could be seen of its receive loop, from the oldest on. -/
structure Watch where
  inbox : Inbox
  log : List Sight := []

/-- The message that the listener is handling. -/
def handling? (inbox : Inbox) : Option Message :=
  match inbox.loop with
  | some (.delivering message) => some message.toMessage
  | _ => none

namespace Watch

/-- An operation has changed the inbox. -/
def operate (watch : Watch) (after : Inbox) : Watch where
  inbox := after
  log := watch.log ++ if !watch.inbox.isListening && after.isListening then [.launched] else []

/-- The client has answered the loop. -/
def answer (watch : Watch) (answer : Answer (Option HubMessage)) : Watch where
  inbox := watch.inbox.received answer
  log := watch.log ++
    .returned answer :: ((watch.inbox.received answer).handling?.map Sight.handed).toList

def act (watch : Watch) : Turn → Watch
  | .operates op => watch.operate (watch.inbox.step op).state
  | .resumes op answer => watch.operate (watch.inbox.resume answer op).state
  | .returns answer => if watch.inbox.loop = some .receiving then watch.answer answer else watch
  | .handles _ => { watch with inbox := watch.inbox.onLoop .delivered }
  | .pauses => { watch with inbox := watch.inbox.onLoop .paused }
  | .interrupts => { watch with inbox := watch.inbox.onLoop .interrupted }

def onward (watch : Watch) (turns : List Turn) : Watch := turns.foldl act watch

end Watch

/-- A new inbox through a list of turns. -/
def watch (listener : Listener) (target : String) (receiveTimeout : Nat) (turns : List Turn) : Watch :=
  Watch.onward { inbox := { listener, target, receiveTimeout } } turns

/-! ## What can be seen -/

/-- The messages that the client has returned to a loop. -/
def returnedIn (log : List Sight) : List HubMessage :=
  log.filterMap fun
    | .returned (.ok message) => message
    | _ => none

/-- The messages that the listener was given. -/
def handedIn (log : List Sight) : List Message :=
  log.filterMap fun
    | .handed message => some message
    | _ => none

/-- Whether a loop goes on after what can be seen. -/
def Sight.IsHarmless : Sight → Prop
  | returned (.error fault) => fault.isTransient = true
  | _ => True

/-- Whether the latest loop that was started has met no fault that ends it. -/
def Goes (log : List Sight) : Prop := Since .launched Sight.IsHarmless log

/-! ## What a turn does -/

/-- An operation may start a loop where none runs and may close the inbox; otherwise it leaves the loop
alone. -/
structure Spares (before after : Inbox) : Prop where
  loop : after.loop = before.loop ∨ before.loop = none ∧ after.loop = some .receiving
  opened : after.cancelled = false → before.cancelled = false

theorem Spares.refl (inbox : Inbox) : Spares inbox inbox := ⟨.inl rfl, id⟩

theorem spares_note (inbox : Inbox) (kind : CallbackKind) (installed : Bool) :
    Spares inbox (inbox.note kind installed) := by
  cases kind <;> exact ⟨.inl rfl, id⟩

theorem spares_afterClear (inbox : Inbox) (kind : CallbackKind) (result : Answer Unit) :
    Spares inbox (inbox.afterClear kind result).state := by
  cases kind <;> exact .refl inbox

theorem spares_step (inbox : Inbox) (op : Op) : Spares inbox (inbox.step op).state := by
  cases op with
  | installed kind | removed kind => exact spares_note ..
  | cancel => exact ⟨.inl rfl, nofun⟩
  | withdraw kind =>
    simp only [step]
    split <;> [exact spares_note ..; exact .refl inbox]
  | clear kind result =>
    simp only [step]
    split <;> [exact spares_note ..; exact spares_afterClear ..]
  | launch =>
    simp only [step]
    split
    case h_1 => exact .refl inbox
    case h_2 idle => exact ⟨.inr ⟨idle, rfl⟩, id⟩
  | install kind | confirm kind | start =>
    simp only [step]
    split <;> exact .refl inbox
  | installing kind callback | withdrawing kind | removing kind | clearing kind result =>
    exact .refl inbox

theorem spares_resume (inbox : Inbox) (answer : Answer Unit) (op : Op) :
    Spares inbox (inbox.resume answer op).state := by
  cases op with
  | installing kind callback | withdrawing kind | removing kind => cases answer <;> exact .refl inbox
  | clearing kind result => exact spares_afterClear ..
  | _ => exact .refl inbox

/-- The listener is given a message exactly when the client has returned it. -/
theorem handling?_received (inbox : Inbox) (answer : Answer (Option HubMessage)) :
    (inbox.received answer).handling? =
      match answer with
      | .ok message => message.map HubMessage.toMessage
      | .error _ => none := by
  rcases answer with fault | _ | message
  · cases transient : fault.isTransient <;> cases closed : inbox.cancelled <;>
      simp [received, transient, closed, handling?]
  · cases closed : inbox.cancelled <;> simp [received, nextReceive, closed, handling?]
  · rfl

/-- In an open inbox only a fault that is not transient ends the loop. -/
theorem isListening_received {inbox : Inbox} (opened : inbox.cancelled = false)
    (answer : Answer (Option HubMessage)) :
    (inbox.received answer).isListening =
      match answer with
      | .ok _ => true
      | .error fault => fault.isTransient := by
  rcases answer with fault | _ | message
  · cases transient : fault.isTransient <;> simp [received, transient, opened, isListening]
  · simp [received, nextReceive, opened, isListening]
  · rfl

theorem cancelled_onLoop (inbox : Inbox) (event : LoopEvent) :
    (inbox.onLoop event).cancelled = inbox.cancelled := by
  obtain ⟨loop, same⟩ := inbox.exists_onLoop event
  rw [same]

/-- Nothing but an answer of the client ends the loop of an open inbox. -/
theorem isListening_onLoop {inbox : Inbox} (opened : inbox.cancelled = false) {event : LoopEvent}
    (quiet : ∀ answer, event ≠ .received answer) :
    (inbox.onLoop event).isListening = inbox.isListening := by
  cases event with
  | received answer => exact absurd rfl (quiet answer)
  | delivered | paused =>
    simp only [onLoop]
    split
    case h_1 waits => simp [delivered, paused, nextReceive, opened, isListening, waits]
    case h_2 => rfl
  | interrupted =>
    simp only [onLoop, interrupted, opened]
    split <;> rfl

/-- The loop of a watched inbox hands on each message that it is given, and goes on as long as no fault
ends it. -/
structure Attends (watch : Watch) : Prop where
  handed : handedIn watch.log = (returnedIn watch.log).map HubMessage.toMessage
  goes : watch.inbox.cancelled = false → (watch.inbox.isListening = true ↔ Goes watch.log)

variable {watch : Watch}

theorem Attends.operate {after : Inbox} (attends : Attends watch) (spares : Spares watch.inbox after) :
    Attends (watch.operate after) := by
  constructor
  case handed =>
    have kept := attends.handed
    simp only [Watch.operate]
    split <;> simpa [handedIn, returnedIn] using kept
  case goes =>
    intro opened
    have before := attends.goes (spares.opened opened)
    rcases spares.loop with same | ⟨idle, started⟩
    · have listens : after.isListening = watch.inbox.isListening := by rw [isListening, isListening, same]
      simpa [Watch.operate, listens] using before
    · simpa [Watch.operate, isListening, idle, started, Goes] using since_append_mark watch.log

theorem Attends.answer (attends : Attends watch) (waits : watch.inbox.loop = some .receiving)
    (answer : Answer (Option HubMessage)) : Attends (watch.answer answer) := by
  constructor
  case handed =>
    have kept := attends.handed
    simp only [Watch.answer, handling?_received]
    rcases answer with fault | _ | message <;> simpa [handedIn, returnedIn] using kept
  case goes =>
    intro opened
    have opened : watch.inbox.cancelled = false := by
      have unchanged := cancelled_onLoop watch.inbox (.received answer)
      simp only [onLoop, waits] at unchanged
      exact unchanged.symm.trans opened
    have before := (attends.goes opened).1 (by simp [isListening, waits])
    have idle : .launched ∉
        .returned answer :: ((watch.inbox.received answer).handling?.map Sight.handed).toList := by
      simp
    rw [Goes] at before
    rw [Watch.answer, isListening_received opened, Goes, since_append_iff idle]
    rcases answer with fault | message <;> simp [before, Sight.IsHarmless]

theorem attends_act (attends : Attends watch) (turn : Turn) : Attends (watch.act turn) := by
  have quiet : ∀ event : LoopEvent, (∀ answer, event ≠ .received answer) →
      Attends { watch with inbox := watch.inbox.onLoop event } := by
    intro event quiet
    refine ⟨attends.handed, fun opened => ?_⟩
    have opened : watch.inbox.cancelled = false := (cancelled_onLoop ..).symm.trans opened
    rw [isListening_onLoop opened quiet]
    exact attends.goes opened
  cases turn with
  | operates op => exact attends.operate (spares_step ..)
  | resumes op answer => exact attends.operate (spares_resume ..)
  | returns answer =>
    simp only [Watch.act]
    split
    case isTrue waits => exact attends.answer waits answer
    case isFalse => exact attends
  | handles outcome => exact quiet .delivered (by rintro _ ⟨⟩)
  | pauses => exact quiet .paused (by rintro _ ⟨⟩)
  | interrupts => exact quiet .interrupted (by rintro _ ⟨⟩)

theorem attends_onward (attends : Attends watch) (turns : List Turn) : Attends (watch.onward turns) := by
  induction turns generalizing watch with
  | nil => exact attends
  | cons turn turns ih => exact ih (attends_act attends turn)

/-- Once the listener has handled the message that it has and the pause is over, the loop asks for the
next message, and it has forgotten none. -/
theorem next_of_isListening (opened : watch.inbox.cancelled = false)
    (listens : watch.inbox.isListening = true) (outcome : Answer Unit) :
    ((watch.act (.handles outcome)).act .pauses).inbox.loop = some .receiving ∧
      ((watch.act (.handles outcome)).act .pauses).log = watch.log := by
  refine ⟨?_, rfl⟩
  cases stage : watch.inbox.loop with
  | none => simp [isListening, stage] at listens
  | some stage' =>
    cases stage' <;> simp [Watch.act, onLoop, stage, delivered, paused, nextReceive, opened]

/-- Where no loop runs, starting one begins a new loop. -/
theorem launches_of_idle (opened : watch.inbox.cancelled = false)
    (idle : watch.inbox.isListening = false) :
    watch.inbox.step .start = .go watch.inbox .launch ∧
      (watch.act (.operates .launch)).inbox.loop = some .receiving ∧
        (watch.act (.operates .launch)).log = watch.log ++ [.launched] := by
  have none : watch.inbox.loop = none := by simpa [isListening] using idle
  refine ⟨?_, ?_, ?_⟩
  · simp [step, opened]
  · simp [Watch.act, Watch.operate, step, none]
  · simp [Watch.act, Watch.operate, step, none, isListening]

end Inbox

/-! ## Messages to a device -/

/-- How the messages to a device go from the hub through the queue of its client and the loop of an inbox to
a listener; `found` are those that found room in the queue, in the order of their arrival. -/
structure Passage (settings : Settings.Hub) (run : Uplink.Run) (found : List HubMessage)
    (watch : Inbox.Watch) : Prop where
  /-- What calls have returned, followed by what is in the queue, is what found room. -/
  queued : Uplink.receivedOf run ++ run.state.queue = found
  bounded : run.state.queue.length ≤ settings.queueBound
  /-- The listener is given what is returned to the loop, once and in that order. -/
  handed : Inbox.handedIn watch.log = (Inbox.returnedIn watch.log).map HubMessage.toMessage
  /-- A loop goes on from its start until a fault that is not transient. -/
  listens : watch.inbox.cancelled = false →
    (watch.inbox.isListening = true ↔ Inbox.Goes watch.log)
  next : watch.inbox.cancelled = false → watch.inbox.isListening = true → ∀ outcome,
    ((watch.act (.handles outcome)).act .pauses).inbox.loop = some .receiving ∧
      ((watch.act (.handles outcome)).act .pauses).log = watch.log
  launches : watch.inbox.cancelled = false → watch.inbox.isListening = false →
    watch.inbox.step .start = .go watch.inbox .launch ∧
      (watch.act (.operates .launch)).inbox.loop = some .receiving ∧
        (watch.act (.operates .launch)).log = watch.log ++ [.launched]
  /-- A loop that is given all that the calls of a client return hands on what found room, but for what
  is still in the queue. -/
  through : Inbox.returnedIn watch.log = Uplink.receivedOf run →
    Inbox.handedIn watch.log ++ run.state.queue.map HubMessage.toMessage =
      found.map HubMessage.toMessage

/-- Whatever happens on a client and on an inbox, messages are neither reordered nor doubled, and lost only
where they find the queue full. -/
theorem passage_run (identity : Identity) (settings : Settings.Hub)
    (router : Topic.Router Uplink.Destination) (events : List Uplink.Event) (listener : Listener)
    (target : String) (receiveTimeout : Nat) (turns : List Inbox.Turn) :
    Passage settings ((Uplink.fresh identity settings router).run events)
      (Uplink.kept { state := Uplink.fresh identity settings router } events)
      (Inbox.watch listener target receiveTimeout turns) := by
  have queued := Uplink.received_append_queue_onward
    { state := Uplink.fresh identity settings router } events
  have attends : Inbox.Attends (Inbox.watch listener target receiveTimeout turns) := by
    refine Inbox.attends_onward ⟨rfl, fun _ => ?_⟩ turns
    simpa [Inbox.isListening, Inbox.Goes] using not_since_nil
  constructor
  case queued => exact queued
  case bounded => exact Uplink.length_queue_onward (Nat.zero_le _) events
  case handed => exact attends.handed
  case listens => exact attends.goes
  case next => exact Inbox.next_of_isListening
  case launches => exact Inbox.launches_of_idle
  case through =>
    intro same
    rw [attends.handed, same, ← List.map_append]
    exact congrArg (List.map HubMessage.toMessage) queued

end DeviceGateway
