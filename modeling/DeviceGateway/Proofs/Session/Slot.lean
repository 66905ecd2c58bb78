/-
# The slot of a session

A session has one slot for an inbox.  Binding an inbox puts it into the slot first and closes whatever
was there afterwards; closing a session turns it inactive first and empties the slot afterwards.  This
module says once what each move of an operation means for the slot, for the inboxes and for what the
operation does next: most moves leave the slot alone, and whoever takes an inbox out of it closes that
inbox with its next step.
-/

import DeviceGateway.Proofs.Session.Ending

namespace DeviceGateway

namespace Inbox

/-- Whether the next step closes the inbox. -/
def Op.isCancel : Op → Bool
  | cancel => true
  | _ => false

/-- What an operation on an inbox does to it, apart from its notes and its loop. -/
structure Treats (inbox : Inbox) (op : Op) (move : Move Inbox Op (Answer Unit)) : Prop where
  target : move.state.target = inbox.target
  cancelled : move.state.cancelled = (inbox.cancelled || op.isCancel)
  /-- It does not close the inbox later on. -/
  later : ∀ state later, move = .go state later → later.isCancel = false

@[simp]
theorem target_note (inbox : Inbox) (kind : CallbackKind) (installed : Bool) :
    (inbox.note kind installed).target = inbox.target := by
  cases kind <;> rfl

theorem treats_afterClear {inbox : Inbox} {op : Op} (kind : CallbackKind) (result : Answer Unit)
    (spares : op.isCancel = false) : Treats inbox op (inbox.afterClear kind result) := by
  cases kind <;> constructor <;> simp_all [afterClear, Op.isCancel]

theorem treats_step (inbox : Inbox) {op : Op} (free : op.awaits = none) :
    Treats inbox op (inbox.step op) := by
  cases op with
  | installing kind callback | withdrawing kind | removing kind | clearing kind result => cases free
  | installed kind | removed kind | cancel => constructor <;> simp [step, Op.isCancel]
  | clear kind result =>
    simp only [step]
    split
    case isTrue => constructor <;> simp [Op.isCancel]
    case isFalse => exact treats_afterClear kind result rfl
  | install kind | confirm kind | withdraw kind | start | launch =>
    simp only [step]
    split <;> constructor <;> simp [Op.isCancel]

theorem treats_resume (inbox : Inbox) {op : Op} {call : ClientCall} (waits : op.awaits = some call)
    (answer : Answer Unit) : Treats inbox op (inbox.resume answer op) := by
  cases op with
  | clearing kind result => exact treats_afterClear kind _ rfl
  | installing kind callback | withdrawing kind | removing kind =>
    cases answer <;> constructor <;> simp [resume, Op.isCancel]
  | _ => cases waits

/-- The receive loop changes nothing of its inbox but itself. -/
theorem exists_onLoop (inbox : Inbox) (event : LoopEvent) :
    ∃ loop, inbox.onLoop event = { inbox with loop } := by
  have next : ∃ loop, inbox.nextReceive = { inbox with loop } := ⟨_, rfl⟩
  have same : ∃ loop, inbox = { inbox with loop } := ⟨inbox.loop, rfl⟩
  cases event with
  | received answer =>
    simp only [onLoop]
    split
    case h_1 =>
      unfold received
      split
      case h_1 => exact ⟨_, rfl⟩
      case h_2 => exact next
      case h_3 => split <;> exact ⟨_, rfl⟩
    case h_2 => exact same
  | delivered | paused =>
    simp only [onLoop]
    split
    case h_1 => exact next
    case h_2 => exact same
  | interrupted =>
    simp only [onLoop, interrupted]
    split
    case h_1 | h_2 => split <;> [exact ⟨_, rfl⟩; exact same]
    case h_3 => exact same

end Inbox

namespace Session

/-! ## What a move means for the slot -/

/-- The inbox that an operation closes with its next step. -/
def Op.closing? : Op → Option Nat
  | onInbox _ number .cancel => some number
  | _ => none

/-- Whether an operation that finds the session inactive looks at the slot again. -/
def Op.isCaring : Op → Bool
  | detach _ | onInbox .replacement _ _ | confirm | withdraw => true
  | _ => false

/-- Whether an operation will not close the inbox it is about to look for. -/
def Op.isPlain : Op → Bool
  | lookup op => !op.isCancel
  | _ => true

/-- A change that leaves the slot alone and closes at most one inbox. -/
structure Tends (before : Session) (closed : Option Nat) (after : Session) : Prop where
  identity : after.identity = before.identity
  active : after.active = before.active
  bound : after.bound = before.bound
  length : after.inboxes.length = before.inboxes.length
  inboxes : ∀ (number : Nat) (inbox : Inbox), before.inboxes[number]? = some inbox →
    ∃ inbox', after.inboxes[number]? = some inbox' ∧ inbox'.target = inbox.target ∧
      inbox'.cancelled = (inbox.cancelled || closed == some number)

theorem tends_self (session : Session) {closed : Option Nat}
    (missing : ∀ number, closed = some number → session.inboxes[number]? = none) :
    Tends session closed session := by
  refine ⟨rfl, rfl, rfl, rfl, ?_⟩
  intro number inbox found
  have apart : closed ≠ some number := by
    intro same
    rw [missing number same] at found
    cases found
  exact ⟨inbox, found, rfl, by simp [apart]⟩

theorem tends_of_free (session : Session) {closed : Option Nat} (free : closed = none) :
    Tends session closed session := by
  subst free
  exact tends_self session fun _ same => by cases same

theorem tends_putInbox {session : Session} {number : Nat} {inbox inbox' : Inbox}
    (found : session.inboxes[number]? = some inbox) (target : inbox'.target = inbox.target)
    {closes : Bool} (cancelled : inbox'.cancelled = (inbox.cancelled || closes)) :
    Tends session (if closes then some number else none) (session.putInbox number inbox') := by
  refine ⟨rfl, rfl, rfl, by simp [putInbox], ?_⟩
  intro other inbox₂ found₂
  have within : number < session.inboxes.length := (List.getElem?_eq_some_iff.1 found).1
  by_cases same : other = number
  · subst same
    obtain rfl := Option.some.inj (found.symm.trans found₂)
    refine ⟨inbox', by simp [putInbox, within], target, ?_⟩
    cases closes <;> simpa using cancelled
  · refine ⟨inbox₂, ?_, rfl, ?_⟩
    · simpa [putInbox, List.getElem?_set_ne (Ne.symm same)] using found₂
    · have apart : number ≠ other := Ne.symm same
      cases closes <;> simp [apart]

theorem tends_mapInbox (session : Session) (number : Nat) (event : Inbox.LoopEvent) :
    Tends session none (session.mapInbox number fun inbox => inbox.onLoop event) := by
  unfold mapInbox
  split
  case h_1 inbox found =>
    obtain ⟨loop, same⟩ := inbox.exists_onLoop event
    exact @tends_putInbox session number inbox _ found (by simp [same]) false (by simp [same])
  case h_2 => exact tends_of_free session rfl

/-- What a move of an operation means for the slot of the session, the inboxes and the operation
itself. -/
inductive SlotMove (session : Session) : Op → Session → Progress Op Result → Prop
  /-- The slot stays as it is. -/
  | tends {op : Op} {after : Session} {progress : Progress Op Result}
      (tends : Tends session op.closing? after)
      (quiet : ∀ later, progress = .running later → later.closing? = none ∧ later.isPlain = true)
      (cares : op.isCaring = true → session.active = false → session.bound ≠ none →
        ∃ later, progress = .running later ∧ later.isCaring = true) :
      SlotMove session op after progress
  /-- It turns the session inactive. -/
  | claims (cause : Cause) :
      SlotMove session (.claim cause) { session with active := false } (.running (.detach cause))
  /-- It takes the inbox out of the slot. -/
  | takes {op : Op} {number : Nat} (found : session.bound = some number) (purpose : Purpose)
      (free : op.closing? = none) :
      SlotMove session op { session with bound := none } (.running (.onInbox purpose number .cancel))
  /-- It puts a new inbox into the slot. -/
  | places (listener : Listener) {later : Op} (cares : later.isCaring = true)
      (closes : later.closing? = session.bound) (plain : later.isPlain = true) :
      SlotMove session (.replace listener)
        { session with
          inboxes := session.inboxes ++ [session.newInbox listener]
          bound := some session.inboxes.length }
        (.running later)

theorem quiet_ended {result : Result} (later : Op)
    (same : (Progress.ended result : Progress Op Result) = .running later) :
    later.closing? = none ∧ later.isPlain = true := by
  cases same

theorem quiet_running {op : Op} (closes : op.closing? = none) (plain : op.isPlain = true) (later : Op)
    (same : (Progress.running op : Progress Op Result) = .running later) :
    later.closing? = none ∧ later.isPlain = true := by
  obtain rfl := Progress.running.inj same
  exact ⟨closes, plain⟩

/-- A move that changes nothing in the session. -/
theorem slotMove_idle {session : Session} {op : Op} {progress : Progress Op Result}
    (free : op.closing? = none) (careless : op.isCaring = false)
    (quiet : ∀ later, progress = .running later → later.closing? = none ∧ later.isPlain = true) :
    SlotMove session op session progress := by
  refine .tends (tends_of_free session free) quiet ?_
  rw [careless]
  exact nofun

theorem closing?_onInbox (purpose : Purpose) (number : Nat) (op : Inbox.Op) :
    (Op.onInbox purpose number op).closing? = if op.isCancel then some number else none := by
  cases op <;> rfl

theorem isCaring_onInbox (purpose : Purpose) (number other : Nat) (op later : Inbox.Op) :
    (Op.onInbox purpose number op).isCaring = (Op.onInbox purpose other later).isCaring := by
  cases purpose <;> rfl

/-- Once its inbox has done its part, an operation closes none with its next step. -/
theorem quiet_afterInbox (session : Session) (answer : Answer Unit) (purpose : Purpose) (later : Op)
    (same : (session.afterInbox answer purpose).progress = .running later) :
    later.closing? = none ∧ later.isPlain = true := by
  cases purpose with
  | request | orphan => cases same
  | teardown cause | replacement => exact quiet_running rfl rfl later same

theorem cares_afterInbox (session : Session) (answer : Answer Unit) {purpose : Purpose} {number : Nat}
    {op : Inbox.Op} (cares : (Op.onInbox purpose number op).isCaring = true) :
    ∃ later, (session.afterInbox answer purpose).progress = .running later ∧
      later.isCaring = true := by
  cases purpose with
  | replacement => exact ⟨.confirm, rfl, rfl⟩
  | request | orphan | teardown cause => cases cares

theorem slotMove_ofInboxMove {session : Session} {purpose : Purpose} {number : Nat} {inbox : Inbox}
    {op : Inbox.Op} {move : Move Inbox Inbox.Op (Answer Unit)}
    (found : session.inboxes[number]? = some inbox) (treats : Inbox.Treats inbox op move) :
    SlotMove session (.onInbox purpose number op) (session.ofInboxMove purpose number move).state
      (session.ofInboxMove purpose number move).progress := by
  have tends := tends_putInbox found treats.target treats.cancelled
  rw [← closing?_onInbox purpose] at tends
  rw [state_ofInboxMove]
  cases move with
  | go inbox' later =>
    have spares := treats.later inbox' later rfl
    refine .tends tends (quiet_running ?_ rfl) ?_
    · simp [closing?_onInbox, spares]
    · intro cares _ _
      exact ⟨_, rfl, (isCaring_onInbox ..).trans cares⟩
  | done inbox' answer =>
    exact .tends tends (quiet_afterInbox _ answer purpose) fun cares _ _ =>
      cares_afterInbox _ answer cares

/-- An operation on an inbox that does not exist passes over it. -/
theorem slotMove_missing {session : Session} {purpose : Purpose} {number : Nat} {op : Inbox.Op}
    (missing : session.inboxes[number]? = none) (answer : Answer Unit) :
    SlotMove session (.onInbox purpose number op) (session.afterInbox answer purpose).state
      (session.afterInbox answer purpose).progress := by
  rw [state_afterInbox]
  refine .tends (tends_self session ?_) (quiet_afterInbox _ answer purpose) fun cares _ _ =>
    cares_afterInbox _ answer cares
  intro other same
  rw [closing?_onInbox] at same
  split at same
  case isTrue =>
    obtain rfl := Option.some.inj same
    exact missing
  case isFalse => cases same

theorem slotMove_forward {session : Session} {op : Op} (call : Answer ClientCall)
    {position : ClientCall → Op} (free : op.closing? = none) (careless : op.isCaring = false)
    (closes : ∀ call, (position call).closing? = none)
    (plain : ∀ call, (position call).isPlain = true) :
    SlotMove session op (session.forward call position).state
      (session.forward call position).progress := by
  rw [state_forward]
  cases call with
  | ok call => exact slotMove_idle free careless (quiet_running (closes call) (plain call))
  | error fault => exact slotMove_idle free careless quiet_ended

theorem slotMove_accept (session : Session) (command : Command) :
    SlotMove session (.begin command) (session.accept command).state
      (session.accept command).progress := by
  cases command with
  | send _ | sendBatch _ | updateReported _ =>
    exact slotMove_forward _ rfl rfl (fun _ => rfl) fun _ => rfl
  | close | getTwin | sendFeedback _ _ | bind _ | install _ | remove _ | startListening =>
    exact slotMove_idle rfl rfl (quiet_running rfl rfl)

theorem slotMove_start (session : Session) (command : Command) :
    SlotMove session (.begin command) (session.start command).state
      (session.start command).progress := by
  have refused : ∀ answer : Result,
      SlotMove session (.begin command) session (.ended answer) :=
    fun _ => slotMove_idle rfl rfl quiet_ended
  unfold start
  split
  case h_1 => exact slotMove_accept session .close
  case h_2 =>
    split
    case isTrue => exact refused _
    case isFalse => split <;> [exact slotMove_accept session _; exact refused _]
  case h_3 => split <;> [exact slotMove_accept session command; exact refused _]

theorem slotMove_step (session : Session) {op : Op} (free : op.request? = none)
    (plain : op.isPlain = true) :
    SlotMove session op (session.step op).state (session.step op).progress := by
  cases op with
  | begin command => exact slotMove_start session command
  | lookup op =>
    have spares : op.isCancel = false := by simpa [Op.isPlain] using plain
    simp only [step]
    split
    case h_1 number _ =>
      exact slotMove_idle rfl rfl (quiet_running (by simp [closing?_onInbox, spares]) rfl)
    case h_2 => exact slotMove_idle rfl rfl quiet_ended
  | onInbox purpose number op =>
    have idle : op.awaits = none := by simpa [Op.request?] using free
    simp only [step]
    split
    case h_1 inbox found => exact slotMove_ofInboxMove found (Inbox.treats_step inbox idle)
    case h_2 missing => exact slotMove_missing missing _
  | claim cause =>
    simp only [step]
    split
    case isTrue => exact .claims cause
    case isFalse => cases cause <;> exact slotMove_idle rfl rfl quiet_ended
  | detach cause =>
    simp only [step]
    split
    case h_1 number found => exact .takes found (.teardown cause) rfl
    case h_2 empty =>
      exact .tends (tends_of_free session rfl) (quiet_running rfl rfl) fun _ _ full => absurd empty full
  | replace listener =>
    simp only [step]
    split
    case h_1 previous found => exact .places listener rfl found.symm rfl
    case h_2 empty => exact .places listener rfl empty.symm rfl
  | confirm =>
    simp only [step]
    split
    case isTrue active =>
      exact .tends (tends_of_free session rfl) quiet_ended fun _ inactive => by simp [active] at inactive
    case isFalse =>
      exact .tends (tends_of_free session rfl) (quiet_running rfl rfl) fun _ _ _ => ⟨_, rfl, rfl⟩
  | withdraw =>
    simp only [step]
    split
    case h_1 number found => exact .takes found .orphan rfl
    case h_2 empty =>
      exact .tends (tends_of_free session rfl) quiet_ended fun _ _ full => absurd empty full
  | fetching | sending _ | passing _ | closingClient _ _ | reporting _ => cases free

theorem slotMove_resume (session : Session) {op : Op} {call : ClientCall} {answer : ClientAnswer}
    (stamp : String) (waits : op.request? = some (.call call)) :
    SlotMove session op (session.resume stamp answer op).state
      (session.resume stamp answer op).progress := by
  cases op with
  | fetching =>
    simp only [resume]
    split
    case h_1 => exact slotMove_idle rfl rfl quiet_ended
    case h_2 => exact slotMove_idle rfl rfl (quiet_running rfl rfl)
  | sending call =>
    simp only [resume]
    split
    case h_1 => exact slotMove_idle rfl rfl quiet_ended
    case h_2 =>
      split
      case isTrue => exact slotMove_idle rfl rfl (quiet_running rfl rfl)
      case isFalse => exact slotMove_idle rfl rfl quiet_ended
  | passing call => exact slotMove_idle rfl rfl quiet_ended
  | onInbox purpose number op =>
    simp only [resume]
    split
    case h_1 inbox found =>
      cases asked : op.awaits with
      | none => simp [Op.request?, asked] at waits
      | some call => exact slotMove_ofInboxMove found (Inbox.treats_resume inbox asked _)
    case h_2 missing => exact slotMove_missing missing _
  | closingClient cause inbox =>
    cases cause with
    | asked => exact slotMove_idle rfl rfl quiet_ended
    | rejected fault =>
      simp only [resume, tornDown]
      split
      case isTrue => exact slotMove_idle rfl rfl (quiet_running rfl rfl)
      case isFalse => exact slotMove_idle rfl rfl quiet_ended
  | begin _ | lookup _ | claim _ | detach _ | reporting _ | replace _ | confirm | withdraw =>
    cases waits

theorem slotMove_reported (session : Session) {op : Op} {status : ConnectionStatus}
    {reason : StatusReason} (waits : op.request? = some (.report status reason)) :
    SlotMove session op (session.reported op).state (session.reported op).progress := by
  cases op with
  | reporting fault => exact slotMove_idle rfl rfl quiet_ended
  | onInbox purpose number op => cases asked : op.awaits <;> simp [Op.request?, asked] at waits
  | _ => cases waits

theorem slotMove_of_moves {session : Session} {op : Op} {told : List Note}
    {move : Move Session Op Result} (moved : Moves session op told move)
    (plain : op.isPlain = true) : SlotMove session op move.state move.progress := by
  cases moved with
  | step free => exact slotMove_step session free plain
  | answer stamp waits admitted => exact slotMove_resume session stamp waits
  | hearing waits => exact slotMove_reported session waits

end Session

end DeviceGateway
