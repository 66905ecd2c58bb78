/-
# Runs of a sending link

Any number of messages are being sent on one link at the same time.  The link answers in any order, and
an outcome of a registered delivery may come at any time from then on, even before sending has returned.
When it has, the delivery is watched: the watching of a delivery begins as its sending ends, so both are
one member of the crew, and what a member has done is the story of one delivery.

Deliveries are only ever added, keep their identifiers, and get one outcome at most.  This is all that
the other members of the crew can do to a delivery.
-/

import DeviceGateway.Proofs.Crew
import DeviceGateway.Link.Sender

namespace DeviceGateway.Link

namespace Sender

/-- The position of a delivery. -/
inductive Task where
  | sending (op : Op)
  | watching (watch : Watch)

/-- What can be seen of deliveries. -/
inductive Note where
  /-- A message is to be sent, under a fresh identifier unless it brings one. -/
  | begun (message : Message) (fresh : Uuid)
  /-- The link has registered a delivery under its tag. -/
  | registered (number : Nat) (tag : Bytes)
  /-- The link was given a transfer. -/
  | handed (transfer : Transfer)
  /-- Sending has returned. -/
  | answered (answer : Answer Unit)
  /-- What became of a delivery; none means that the link has given it up. -/
  | disposed (number : Nat) (outcome : Option Outcome)
  /-- The session is asked to give feedback. -/
  | feedback (messageId : String) (status : Feedback)

/-- A link with the deliveries that are under way. -/
abbrev Run := Crew Sender Task Unit Note

/-- What happens in a run. -/
inductive Event where
  | sends (message : Message) (fresh : Uuid)
  | steps (member : Nat)
  /-- The link answers to a transfer, or has registered a delivery. -/
  | answers (member : Nat) (answer : Answer Unit)
  | disposes (number : Nat) (outcome : Option Outcome)
  /-- Whoever watches a delivery learns what became of it. -/
  | watches (member : Nat)
  /-- The session answers to the feedback on a delivery. -/
  | feeds (member : Nat) (answer : Answer Unit)

/-- Where sending leads when it has returned. -/
def afterSent (sent : Sent) : Task ⊕ Unit :=
  match sent.watched with
  | some number => .inl (.watching (.waiting number))
  | none => .inr ()

/-- What can be seen as the link answers. -/
def told (sender : Sender) (answer : Answer Unit) : Op → List Note
  | .begin _ _ => []
  | .transferring transfer | .queueing transfer _ => [.handed transfer, .answered answer]
  | .registering transfer _ => [.registered sender.deliveries.length transfer.tag]

/-- What can be seen of watching a delivery. -/
def asked : Move Sender Watch Unit → List Note
  | .go _ watch => (watch.feedback?.map fun asks => Note.feedback asks.1 asks.2).toList
  | .done _ _ => []

def onStep (sender : Sender) : Task → Option (Move Sender Task Unit × List Note)
  | .sending op =>
    match op.request? with
    | some _ => none
    | none => some ((sender.step op).map .sending afterSent, [])
  | .watching _ => none

def onAnswer (answer : Answer Unit) (sender : Sender) :
    Task → Option (Move Sender Task Unit × List Note)
  | .sending op =>
    match op.request? with
    | some _ => some ((sender.resume answer op).map .sending afterSent, sender.told answer op)
    | none => none
  | .watching _ => none

def onWatch (sender : Sender) : Task → Option (Move Sender Task Unit × List Note)
  | .watching (.waiting number) =>
    if sender.isDecided number then
      some ((sender.watchStep (.waiting number)).map .watching .inr,
        asked (sender.watchStep (.waiting number)))
    else none
  | _ => none

def onFed (answer : Answer Unit) (sender : Sender) :
    Task → Option (Move Sender Task Unit × List Note)
  | .watching (.feeding id status) =>
    some ((sender.watchResume answer (.feeding id status)).map .watching .inr, [])
  | _ => none

/-- What is known of a delivery once it is decided. -/
def dispositionOf : Option Outcome → Disposition
  | some outcome => .reported outcome
  | none => .dropped

/-- Decide what becomes of a delivery, once. -/
def settle (run : Run) (number : Nat) (outcome : Option Outcome) : Run :=
  match run.state.deliveries[number]? with
  | some delivery =>
    if delivery.disposition = .pending then
      run.drift (run.state.dispose number (dispositionOf outcome)) [.disposed number outcome]
    else run
  | none => run

/-- A run after one more event. -/
def act (run : Run) : Event → Run
  | .sends message fresh => run.enter (.sending (.begin message fresh)) [.begun message fresh]
  | .steps member => run.advance member run.state.onStep
  | .answers member answer => run.advance member (onAnswer answer run.state)
  | .disposes number outcome => settle run number outcome
  | .watches member => run.advance member run.state.onWatch
  | .feeds member answer => run.advance member (onFed answer run.state)

def onward (run : Run) (events : List Event) : Run := events.foldl act run

/-- The run of a link through a list of events. -/
def run (sender : Sender) (events : List Event) : Run := onward { state := sender } events

/-! ## What happens to deliveries -/

/-- The moves that a delivery can make. -/
inductive Moves (sender : Sender) : Task → Move Sender Task Unit → List Note → Prop
  | step {op : Op} (free : op.request? = none) :
      Moves sender (.sending op) ((sender.step op).map .sending afterSent) []
  | answer {op : Op} (answer : Answer Unit) (waits : op.request?.isSome = true) :
      Moves sender (.sending op) ((sender.resume answer op).map .sending afterSent)
        (sender.told answer op)
  | watch {number : Nat} (decided : sender.isDecided number = true) :
      Moves sender (.watching (.waiting number))
        ((sender.watchStep (.waiting number)).map .watching .inr)
        (asked (sender.watchStep (.waiting number)))
  | fed {id : Uuid} {status : Feedback} (answer : Answer Unit) :
      Moves sender (.watching (.feeding id status))
        ((sender.watchResume answer (.feeding id status)).map .watching .inr) []

/-- What is seen of sending is the answer that the link gives. -/
theorem answer_of_told {sender : Sender} {answer given : Answer Unit} {op : Op}
    (told : .answered answer ∈ sender.told given op) : given = answer := by
  cases op with
  | begin message fresh | registering transfer id => simp [Sender.told] at told
  | transferring transfer | queueing transfer number =>
    simpa [Sender.told, eq_comm] using told

theorem answered_not_mem_asked {answer : Answer Unit} {move : Move Sender Watch Unit} :
    .answered answer ∉ asked move := by
  cases move with
  | go state watch =>
    cases watch with
    | waiting number => exact List.not_mem_nil
    | feeding id status => exact fun told => nomatch List.mem_singleton.1 told
  | done state result => exact List.not_mem_nil

/-- What is kept when a message is to be sent, when a delivery moves and when one is decided is kept by
every event; and an answer is seen of no delivery but the one that the link answers. -/
theorem act_induction {Holds : Run → Prop} {run : Run} {event : Event} (now : Holds run)
    (begins : ∀ message fresh,
      Holds (run.enter (.sending (.begin message fresh)) [.begun message fresh]))
    (moves : ∀ member task move notes, run.members[member]? = some (.running task) →
      Moves run.state task move notes →
        (∀ answer, .answered answer ∈ notes → event = .answers member answer) →
          Holds (run.follow member move notes))
    (disposes : ∀ number outcome delivery, run.state.deliveries[number]? = some delivery →
      delivery.disposition = .pending →
        Holds (run.drift (run.state.dispose number (dispositionOf outcome))
          [.disposed number outcome])) : Holds (act run event) := by
  cases event with
  | sends message fresh => exact begins message fresh
  | steps member =>
    apply Crew.advance_induction now
    intro task move notes held allowed
    cases task with
    | sending op =>
      simp only [onStep] at allowed
      split at allowed
      case h_1 => cases allowed
      case h_2 free =>
        obtain ⟨rfl, rfl⟩ := Prod.mk.inj (Option.some.inj allowed)
        exact moves member _ _ _ held (.step free) fun _ none => (List.not_mem_nil none).elim
    | watching watch => cases allowed
  | answers member answer =>
    apply Crew.advance_induction now
    intro task move notes held allowed
    cases task with
    | sending op =>
      simp only [onAnswer] at allowed
      split at allowed
      case h_1 request waits =>
        obtain ⟨rfl, rfl⟩ := Prod.mk.inj (Option.some.inj allowed)
        exact moves member _ _ _ held (.answer answer (by rw [waits]; rfl)) fun other told => by
          rw [answer_of_told told]
      case h_2 => cases allowed
    | watching watch => cases allowed
  | disposes number outcome =>
    simp only [act, settle]
    split
    case h_1 delivery held =>
      split
      case isTrue pending => exact disposes number outcome delivery held pending
      case isFalse => exact now
    case h_2 => exact now
  | watches member =>
    apply Crew.advance_induction now
    intro task move notes held allowed
    unfold onWatch at allowed
    split at allowed
    case h_1 number =>
      split at allowed
      case isTrue decided =>
        obtain ⟨rfl, rfl⟩ := Prod.mk.inj (Option.some.inj allowed)
        exact moves member _ _ _ held (.watch decided) fun _ told => (answered_not_mem_asked told).elim
      case isFalse => cases allowed
    case h_2 => cases allowed
  | feeds member answer =>
    apply Crew.advance_induction now
    intro task move notes held allowed
    unfold onFed at allowed
    split at allowed
    case h_1 id status =>
      obtain ⟨rfl, rfl⟩ := Prod.mk.inj (Option.some.inj allowed)
      exact moves member _ _ _ held (.fed answer) fun _ none => (List.not_mem_nil none).elim
    case h_2 => cases allowed

/-- Deliveries stay, and one that was decided stays as it is. -/
structure Grows (before after : Sender) : Prop where
  guarantee : after.guarantee = before.guarantee
  identified : ∀ (number : Nat) (delivery : Delivery), before.deliveries[number]? = some delivery →
    ∃ later, after.deliveries[number]? = some later ∧ later.id = delivery.id
  decided : ∀ (number : Nat) (delivery : Delivery), before.deliveries[number]? = some delivery →
    delivery.disposition ≠ .pending → after.deliveries[number]? = some delivery

theorem Grows.refl (sender : Sender) : Grows sender sender where
  guarantee := rfl
  identified := fun _ delivery held => ⟨delivery, held, rfl⟩
  decided := fun _ _ held _ => held

theorem grows_register (sender : Sender) (id : Uuid) :
    Grows sender { sender with deliveries := sender.deliveries ++ [{ id }] } := by
  have kept {number : Nat} {delivery : Delivery} (held : sender.deliveries[number]? = some delivery) :
      (sender.deliveries ++ [⟨id, .pending⟩])[number]? = some delivery := by
    rw [List.getElem?_append_left (List.getElem?_eq_some_iff.1 held).1]
    exact held
  constructor
  case guarantee => rfl
  case identified => exact fun _ delivery held => ⟨delivery, kept held, rfl⟩
  case decided => exact fun _ _ held _ => kept held

theorem dispose_of_pending {sender : Sender} {number : Nat} {delivery : Delivery}
    (held : sender.deliveries[number]? = some delivery) (pending : delivery.disposition = .pending)
    (disposition : Disposition) : sender.dispose number disposition =
      { sender with deliveries := sender.deliveries.set number { delivery with disposition } } := by
  simp only [dispose, held, if_pos pending]

theorem getElem?_dispose {sender : Sender} {number : Nat} {delivery : Delivery}
    (held : sender.deliveries[number]? = some delivery) (pending : delivery.disposition = .pending)
    (disposition : Disposition) (other : Nat) :
    (sender.dispose number disposition).deliveries[other]? =
      if other = number then some { delivery with disposition } else sender.deliveries[other]? := by
  rw [dispose_of_pending held pending]
  have within : number < sender.deliveries.length := (List.getElem?_eq_some_iff.1 held).1
  by_cases same : other = number
  · subst same
    simp [within]
  · simp [same, List.getElem?_set_ne (Ne.symm same)]

theorem grows_dispose {sender : Sender} {number : Nat} {delivery : Delivery}
    (held : sender.deliveries[number]? = some delivery) (pending : delivery.disposition = .pending)
    (disposition : Disposition) : Grows sender (sender.dispose number disposition) := by
  constructor
  case guarantee => rw [dispose_of_pending held pending]
  case identified =>
    intro other found was
    rw [getElem?_dispose held pending]
    by_cases same : other = number
    · subst same
      obtain rfl := Option.some.inj (held.symm.trans was)
      exact ⟨{ delivery with disposition }, if_pos rfl, rfl⟩
    · exact ⟨found, by rw [if_neg same, was], rfl⟩
  case decided =>
    intro other found was decided
    rw [getElem?_dispose held pending, if_neg]
    · exact was
    · rintro rfl
      obtain rfl := Option.some.inj (held.symm.trans was)
      exact decided pending

end Sender

end DeviceGateway.Link
