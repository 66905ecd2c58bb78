/-
# Runs of a session

Any number of operations work on one session at the same time.  An event of a run lets one of them go
on: an operation begins, one that waits for nothing takes a step, one that waits for its client gets an
answer, and one that waits for its report to be heard is told so.  The receive loops of the inboxes
go on by themselves.  Every list of events is a run; an event for which the time has not come changes
nothing.

The log notes what can be seen from outside: which command an operation began with, what it asks its
client and whoever hears the reports, what it is answered, that it turned the session inactive, and how
it ends.
-/

import DeviceGateway.Proofs.Crew
import DeviceGateway.Session.Basic

namespace DeviceGateway

/-- Whether an answer is of the kind that a call has. -/
def ClientCall.admits : ClientCall → ClientAnswer → Bool
  | .getTwin, .twin _ => true
  | .receive _, .received _ => true
  | .getTwin, _ | .receive _, _ => false
  | _, .done _ => true
  | _, _ => false

namespace Inbox

/-- What moves the receive loop of an inbox. -/
inductive LoopEvent where
  /-- The client has answered a receive call. -/
  | received (answer : Answer (Option HubMessage))
  /-- The listener has handled a message. -/
  | delivered
  /-- The pause is over. -/
  | paused
  /-- A wait is given up, since the inbox is closed. -/
  | interrupted

/-- An inbox after something moved its receive loop. -/
def onLoop (inbox : Inbox) : LoopEvent → Inbox
  | .received answer =>
    match inbox.loop with
    | some .receiving => inbox.received answer
    | _ => inbox
  | .delivered =>
    match inbox.loop with
    | some (.delivering _) => inbox.delivered
    | _ => inbox
  | .paused =>
    match inbox.loop with
    | some .pausing => inbox.paused
    | _ => inbox
  | .interrupted => inbox.interrupted

end Inbox

namespace Session

/-- A session on which nothing was done yet. -/
def fresh (identity : Identity) (reports : Bool) (receiveTimeout : Nat) : Session :=
  { identity, reports, receiveTimeout }

/-- What can be seen of the operations on a session. -/
inductive Note where
  | begun (command : Command)
  | asked (request : Request)
  | answered (call : ClientCall) (answer : ClientAnswer)
  /-- The operation turned the session inactive. -/
  | turned
  | ended (result : Result)

/-- A session with the operations at work on it. -/
abbrev Run := Crew Session Op Result Note

/-- What happens in a run. -/
inductive Event where
  | begins (command : Command)
  | steps (member : Nat)
  /-- The client answers; `stamp` is the text of the present time. -/
  | answers (member : Nat) (stamp : String) (answer : ClientAnswer)
  /-- The report of a member has been heard. -/
  | hears (member : Nat)
  | loops (inbox : Nat) (event : Inbox.LoopEvent)

/-- What can be seen of a move. -/
def notesOf (before : Session) (move : Move Session Op Result) : List Note :=
  (if before.active && !move.state.active then [.turned] else []) ++
    match move with
    | .go _ op => (op.request?.map Note.asked).toList
    | .done _ result => [.ended result]

/-- The step of an operation that waits for nothing. -/
def onStep (session : Session) (op : Op) : Option (Move Session Op Result × List Note) :=
  match op.request? with
  | none => some (session.step op, session.notesOf (session.step op))
  | some _ => none

/-- The move of an operation whose client has answered. -/
def onAnswer (session : Session) (stamp : String) (answer : ClientAnswer) (op : Op) :
    Option (Move Session Op Result × List Note) :=
  match op.request? with
  | some (.call call) =>
    if call.admits answer then
      let move := session.resume stamp answer op
      some (move, .answered call answer :: session.notesOf move)
    else none
  | _ => none

/-- The move of an operation whose report has been heard. -/
def onHearing (session : Session) (op : Op) : Option (Move Session Op Result × List Note) :=
  match op.request? with
  | some (.report _ _) => some (session.reported op, session.notesOf (session.reported op))
  | _ => none

/-- A run after one more event. -/
def act (run : Run) : Event → Run
  | .begins command => run.enter (.begin command) [.begun command]
  | .steps member => run.advance member run.state.onStep
  | .answers member stamp answer => run.advance member (run.state.onAnswer stamp answer)
  | .hears member => run.advance member run.state.onHearing
  | .loops inbox event => run.drift (run.state.mapInbox inbox fun inbox => inbox.onLoop event) []

/-- A run after more events. -/
def onward (run : Run) (events : List Event) : Run := events.foldl act run

/-- The run of a session through a list of events. -/
def run (session : Session) (events : List Event) : Run := onward { state := session } events

theorem onward_append (run : Run) (events more : List Event) :
    onward run (events ++ more) = onward (onward run events) more :=
  List.foldl_append

theorem run_append (session : Session) (events more : List Event) :
    session.run (events ++ more) = onward (session.run events) more :=
  onward_append ..

/-! ## The moves of an operation -/

/-- The moves that an operation can make, with the answer it is given. -/
inductive Moves (session : Session) : Op → List Note → Move Session Op Result → Prop
  | step {op : Op} (free : op.request? = none) : Moves session op [] (session.step op)
  | answer {op : Op} {call : ClientCall} {answer : ClientAnswer} (stamp : String)
      (waits : op.request? = some (.call call)) (admitted : call.admits answer = true) :
      Moves session op [.answered call answer] (session.resume stamp answer op)
  | hearing {op : Op} {status : ConnectionStatus} {reason : StatusReason}
      (waits : op.request? = some (.report status reason)) :
      Moves session op [] (session.reported op)

/-- What the beginning of an operation, the moves of the members and the receive loops keep is kept by
every event. -/
theorem act_induction {Holds : Run → Prop} {run : Run} (now : Holds run)
    (begins : ∀ command, Holds (run.enter (.begin command) [.begun command]))
    (moves : ∀ member op told move, run.members[member]? = some (.running op) →
      Moves run.state op told move →
      Holds (run.follow member move (told ++ run.state.notesOf move)))
    (loops : ∀ number event,
      Holds (run.drift (run.state.mapInbox number fun inbox => inbox.onLoop event) []))
    (event : Event) : Holds (act run event) := by
  cases event with
  | begins command => exact begins command
  | steps member =>
    apply Crew.advance_induction now
    intro op move notes held allowed
    unfold onStep at allowed
    split at allowed
    case h_1 free =>
      obtain ⟨rfl, rfl⟩ := Prod.mk.inj (Option.some.inj allowed)
      exact moves member op [] _ held (.step free)
    case h_2 => cases allowed
  | answers member stamp answer =>
    apply Crew.advance_induction now
    intro op move notes held allowed
    unfold onAnswer at allowed
    split at allowed
    case h_1 call waits =>
      split at allowed
      case isTrue admitted =>
        obtain ⟨rfl, rfl⟩ := Prod.mk.inj (Option.some.inj allowed)
        exact moves member op [_] _ held (.answer stamp waits admitted)
      case isFalse => cases allowed
    case h_2 => cases allowed
  | hears member =>
    apply Crew.advance_induction now
    intro op move notes held allowed
    unfold onHearing at allowed
    split at allowed
    case h_1 status reason waits =>
      obtain ⟨rfl, rfl⟩ := Prod.mk.inj (Option.some.inj allowed)
      exact moves member op [] _ held (.hearing waits)
    case h_2 => cases allowed
  | loops number event => exact loops number event

/-- What becomes of one member: only its own moves matter to where it is and to its story. -/
theorem member_act {Holds : Progress Op Result → List Note → Prop} {run : Run} {member : Nat}
    {progress : Progress Op Result} (held : run.members[member]? = some progress)
    (now : Holds progress (run.story member))
    (moves : ∀ op told move, progress = .running op → Moves run.state op told move →
      Holds move.progress (run.story member ++ (told ++ run.state.notesOf move))) (event : Event) :
    ∃ later, (act run event).members[member]? = some later ∧
      Holds later ((act run event).story member) := by
  have within : member < run.members.length := (List.getElem?_eq_some_iff.1 held).1
  have stays : ∀ {after : Run}, after.members[member]? = some progress →
      after.story member = run.story member →
      ∃ later, after.members[member]? = some later ∧ Holds later (after.story member) :=
    fun held' same => ⟨progress, held', same ▸ now⟩
  refine @act_induction (fun after => ∃ later, after.members[member]? = some later ∧
    Holds later (after.story member)) run (stays held rfl) ?begins ?moves ?loops event
  case begins =>
    exact fun _ => stays (Crew.member_enter _ held) (Crew.story_enter_of_ne _ (Nat.ne_of_gt within))
  case moves =>
    intro other op told move held' moved
    by_cases same : member = other
    · subst same
      refine ⟨move.progress, Crew.member_follow_self held', ?_⟩
      rw [Crew.story_follow_self]
      exact moves op told move (Option.some.inj (held.symm.trans held')) moved
    · exact stays (Crew.member_follow_of_ne held' same held) (Crew.story_follow_of_ne (Ne.symm same))
  case loops => exact fun _ _ => stays held (Crew.story_drift _)

/-! ## How a session changes -/

/-- What no operation undoes: a session keeps its identity and its settings, an inactive one stays
inactive, and no inbox is forgotten. -/
structure Evolves (before after : Session) : Prop where
  identity : after.identity = before.identity
  reports : after.reports = before.reports
  receiveTimeout : after.receiveTimeout = before.receiveTimeout
  active : after.active = true → before.active = true
  inboxes : before.inboxes.length ≤ after.inboxes.length
  /-- The bound inbox stays one that exists. -/
  bound : (∀ number, before.bound = some number → number < before.inboxes.length) →
    ∀ number, after.bound = some number → number < after.inboxes.length

/-- An inactive session stays inactive. -/
theorem Evolves.inactive {before after : Session} (evolves : Evolves before after)
    (inactive : before.active = false) : after.active = false := by
  by_contra active
  rw [evolves.active (by simpa using active)] at inactive
  cases inactive

theorem Evolves.refl (session : Session) : Evolves session session :=
  ⟨rfl, rfl, rfl, id, Nat.le_refl _, id⟩

theorem Evolves.trans {first second third : Session} (early : Evolves first second)
    (late : Evolves second third) : Evolves first third where
  identity := late.identity.trans early.identity
  reports := late.reports.trans early.reports
  receiveTimeout := late.receiveTimeout.trans early.receiveTimeout
  active := early.active ∘ late.active
  inboxes := Nat.le_trans early.inboxes late.inboxes
  bound := late.bound ∘ early.bound

theorem evolves_putInbox (session : Session) (number : Nat) (inbox : Inbox) :
    Evolves session (session.putInbox number inbox) := by
  refine ⟨rfl, rfl, rfl, id, ?_, ?_⟩
  · simp [putInbox]
  · intro within other found
    simpa [putInbox] using within other found

theorem evolves_mapInbox (session : Session) (number : Nat) (change : Inbox → Inbox) :
    Evolves session (session.mapInbox number change) := by
  unfold mapInbox
  split
  case h_1 inbox _ => exact evolves_putInbox session number _
  case h_2 => exact .refl session

@[simp]
theorem active_putInbox (session : Session) (number : Nat) (inbox : Inbox) :
    (session.putInbox number inbox).active = session.active := rfl

@[simp]
theorem active_mapInbox (session : Session) (number : Nat) (change : Inbox → Inbox) :
    (session.mapInbox number change).active = session.active := by
  unfold mapInbox
  split <;> rfl

@[simp]
theorem state_forward (session : Session) (call : Answer ClientCall) (position : ClientCall → Op) :
    (session.forward call position).state = session := by
  cases call <;> rfl

@[simp]
theorem state_accept (session : Session) (command : Command) :
    (session.accept command).state = session := by
  cases command <;> simp [accept]

@[simp]
theorem state_start (session : Session) (command : Command) :
    (session.start command).state = session := by
  unfold start
  split
  case h_1 => simp
  case h_2 => split <;> [rfl; (split <;> simp)]
  case h_3 => split <;> simp

@[simp]
theorem state_tornDown (session : Session) (clean : Bool) (cause : Cause) :
    (session.tornDown clean cause).state = session := by
  cases cause with
  | asked => rfl
  | rejected fault =>
    simp only [tornDown]
    split <;> rfl

@[simp]
theorem state_afterInbox (session : Session) (answer : Answer Unit) (purpose : Purpose) :
    (session.afterInbox answer purpose).state = session := by
  cases purpose <;> rfl

@[simp]
theorem state_ofInboxMove (session : Session) (purpose : Purpose) (number : Nat)
    (move : Move Inbox Inbox.Op (Answer Unit)) :
    (session.ofInboxMove purpose number move).state = session.putInbox number move.state := by
  cases move <;> simp [ofInboxMove]

theorem evolves_step (session : Session) (op : Op) : Evolves session (session.step op).state := by
  cases op with
  | begin command => simpa [step] using Evolves.refl session
  | lookup op =>
    simp only [step]
    split <;> exact .refl session
  | onInbox purpose number op =>
    simp only [step]
    split
    case h_1 inbox _ => simpa using evolves_putInbox session number _
    case h_2 => simpa using Evolves.refl session
  | claim cause =>
    simp only [step]
    split
    case isTrue => exact ⟨rfl, rfl, rfl, nofun, Nat.le_refl _, id⟩
    case isFalse => cases cause <;> exact .refl session
  | detach cause =>
    simp only [step]
    split
    case h_1 => exact ⟨rfl, rfl, rfl, id, Nat.le_refl _, fun _ => nofun⟩
    case h_2 => exact .refl session
  | replace listener =>
    have grown : ∀ number, some session.inboxes.length = some number →
        number < (session.inboxes ++ [session.newInbox listener]).length := by
      intro number same
      obtain rfl := Option.some.inj same
      simp
    simp only [step]
    split <;> exact ⟨rfl, rfl, rfl, id, by simp, fun _ => grown⟩
  | confirm =>
    simp only [step]
    split <;> exact .refl session
  | withdraw =>
    simp only [step]
    split
    case h_1 => exact ⟨rfl, rfl, rfl, id, Nat.le_refl _, fun _ => nofun⟩
    case h_2 => exact .refl session
  | fetching | sending call | passing call | closingClient cause inbox | reporting fault =>
    exact .refl session

/-- Whoever claims the teardown of a session finds it inactive or turns it so. -/
theorem active_step_claim (session : Session) (cause : Cause) :
    (session.step (.claim cause)).state.active = false := by
  simp only [step]
  split
  case isTrue => rfl
  case isFalse inactive => cases cause <;> simpa using inactive

/-- Whether an operation is about to find the session closed or to turn it inactive. -/
def Op.isClaiming : Op → Bool
  | begin .close | claim _ => true
  | _ => false

/-- Whoever is about to turn a session inactive goes on to that, or has done it. -/
theorem isClaiming_step {session : Session} {op : Op} (claims : op.isClaiming = true) :
    (∃ state later, session.step op = .go state later ∧ later.isClaiming = true) ∨
      (session.step op).state.active = false := by
  cases op with
  | begin command =>
    cases command with
    | close => exact .inl ⟨session, .claim .asked, rfl, rfl⟩
    | _ => cases claims
  | claim cause => exact .inr (session.active_step_claim cause)
  | _ => cases claims

theorem request?_of_isClaiming {op : Op} (claims : op.isClaiming = true) : op.request? = none := by
  cases op with
  | begin | claim => rfl
  | _ => cases claims

theorem evolves_resume (session : Session) (stamp : String) (answer : ClientAnswer) (op : Op) :
    Evolves session (session.resume stamp answer op).state := by
  cases op with
  | fetching =>
    simp only [resume]
    split <;> exact .refl session
  | sending call =>
    simp only [resume]
    split
    case h_1 => exact .refl session
    case h_2 => split <;> exact .refl session
  | onInbox purpose number op =>
    simp only [resume]
    split
    case h_1 inbox _ => simpa using evolves_putInbox session number _
    case h_2 => simpa using Evolves.refl session
  | closingClient cause inbox => simpa [resume] using Evolves.refl session
  | begin _ | passing _ | lookup _ | claim _ | detach _ | reporting _ | replace _ | confirm
  | withdraw => exact .refl session

theorem evolves_reported (session : Session) (op : Op) :
    Evolves session (session.reported op).state := by
  cases op <;> exact .refl session

theorem evolves_of_moves {session : Session} {op : Op} {told : List Note}
    {move : Move Session Op Result} (moved : Moves session op told move) :
    Evolves session move.state := by
  cases moved with
  | step free => exact evolves_step session op
  | answer stamp waits admitted => exact evolves_resume session stamp _ op
  | hearing waits => exact evolves_reported session op

/-- A session evolves through every run. -/
theorem evolves_onward (run : Run) (events : List Event) :
    Evolves run.state (onward run events).state := by
  induction events generalizing run with
  | nil => exact .refl run.state
  | cons event events ih =>
    have first : Evolves run.state (act run event).state := by
      refine @act_induction (Evolves run.state ·.state) run (.refl _) ?begins ?moves ?loops event
      case begins => exact fun _ => .refl _
      case moves => exact fun _ _ _ _ _ moved => evolves_of_moves moved
      case loops => exact fun _ _ => evolves_mapInbox ..
    exact first.trans (ih (act run event))

end Session

end DeviceGateway
