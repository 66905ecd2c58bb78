/-
# No inbox is left behind

However binding and closing come in between each other, an inbox outside of the slot that is still open
is closed by the next step of some operation, and a session that is inactive with an inbox in its slot
has an operation on it that looks at the slot again.  Once all operations are over, the inboxes that are
open are therefore the one in the slot of an active session, and none if the session is closed.

An operation that binds an inbox looks at the session once more when it is done.  So one that is not over
when the session turns inactive never says that it succeeded.
-/

import DeviceGateway.Proofs.Session.Slot
import DeviceGateway.Proofs.Session.Stories

namespace DeviceGateway

namespace Session

/-- Whether there is an inbox of a number that is not closed. -/
def IsOpen (session : Session) (number : Nat) : Prop :=
  ∃ inbox, session.inboxes[number]? = some inbox ∧ inbox.cancelled = false

/-! ## What a move does to the inboxes that are open -/

theorem Tends.isOpen {before after : Session} {closed : Option Nat} (tends : Tends before closed after)
    (number : Nat) : after.IsOpen number ↔ before.IsOpen number ∧ closed ≠ some number := by
  constructor
  · rintro ⟨inbox', found', live⟩
    have within := (List.getElem?_eq_some_iff.1 found').1
    rw [tends.length] at within
    have found := List.getElem?_eq_getElem within
    obtain ⟨inbox, there, _, cancelled⟩ := tends.inboxes number _ found
    obtain rfl := Option.some.inj (found'.symm.trans there)
    rw [live, eq_comm, Bool.or_eq_false_iff] at cancelled
    exact ⟨⟨_, found, cancelled.1⟩, by simpa using cancelled.2⟩
  · rintro ⟨⟨inbox, found, live⟩, apart⟩
    obtain ⟨inbox', found', _, cancelled⟩ := tends.inboxes number inbox found
    exact ⟨inbox', found', by simp [cancelled, live, apart]⟩

theorem Tends.targets {before after : Session} {closed : Option Nat} (tends : Tends before closed after)
    {target : String} (all : ∀ inbox ∈ before.inboxes, inbox.target = target) :
    ∀ inbox ∈ after.inboxes, inbox.target = target := by
  intro inbox' member
  obtain ⟨number, found'⟩ := List.mem_iff_getElem?.1 member
  have within := (List.getElem?_eq_some_iff.1 found').1
  rw [tends.length] at within
  obtain ⟨inbox, there, same, _⟩ := tends.inboxes number _ (List.getElem?_eq_getElem within)
  obtain rfl := Option.some.inj (found'.symm.trans there)
  rw [same]
  exact all _ (List.getElem_mem within)

section

variable {session after : Session} {op : Op} {progress : Progress Op Result}

theorem SlotMove.identity (moved : SlotMove session op after progress) :
    after.identity = session.identity := by
  cases moved with
  | tends tends quiet cares => exact tends.identity
  | claims cause | takes found purpose free | places listener cares closes plain => rfl

theorem SlotMove.targets (moved : SlotMove session op after progress)
    (all : ∀ inbox ∈ session.inboxes, inbox.target = session.identity.toText) :
    ∀ inbox ∈ after.inboxes, inbox.target = session.identity.toText := by
  cases moved with
  | tends tends quiet cares => exact tends.targets all
  | claims cause | takes found purpose free => exact all
  | places listener cares closes plain =>
    intro inbox found
    rcases List.mem_append.1 found with old | new
    · exact all inbox old
    · rw [List.mem_singleton.1 new]
      rfl

theorem SlotMove.plain (moved : SlotMove session op after progress) (later : Op)
    (comes : progress = .running later) : later.isPlain = true := by
  cases moved with
  | tends tends quiet cares => exact (quiet later comes).2
  | claims cause | takes found purpose free =>
    obtain rfl := Progress.running.inj comes
    rfl
  | places listener cares closes plain =>
    obtain rfl := Progress.running.inj comes
    exact plain

/-- The inbox in the slot stays open unless it is the one that is being closed. -/
theorem SlotMove.bound (moved : SlotMove session op after progress)
    (live : ∀ number, session.bound = some number → session.IsOpen number)
    (apart : ∀ number, op.closing? = some number → session.bound ≠ some number) (number : Nat)
    (found : after.bound = some number) : after.IsOpen number := by
  cases moved with
  | tends tends quiet cares =>
    rw [tends.bound] at found
    exact (tends.isOpen number).2 ⟨live number found, fun closes => apart number closes found⟩
  | claims cause => exact live number found
  | takes taken purpose free => cases found
  | places listener cares closes plain =>
    obtain rfl := Option.some.inj found
    exact ⟨session.newInbox listener, by simp, rfl⟩

/-- An inbox outside of the slot stays outside. -/
theorem SlotMove.outside (moved : SlotMove session op after progress) {number : Nat}
    (outside : session.bound ≠ some number ∧ number < session.inboxes.length) :
    after.bound ≠ some number ∧ number < after.inboxes.length := by
  cases moved with
  | tends tends quiet cares => rwa [tends.bound, tends.length]
  | claims cause => exact outside
  | takes taken purpose free => exact ⟨nofun, outside.2⟩
  | places listener cares closes plain =>
    have within := outside.2
    refine ⟨fun same => ?_, by simpa using Nat.lt_succ_of_lt within⟩
    exact Nat.lt_irrefl _ (Option.some.inj same ▸ within)

/-- An inbox that the operation closes next was taken out of the slot by this move. -/
theorem SlotMove.closing (moved : SlotMove session op after progress)
    (within : ∀ number, session.bound = some number → number < session.inboxes.length) (later : Op)
    (comes : progress = .running later) (number : Nat) (closes : later.closing? = some number) :
    after.bound ≠ some number ∧ number < after.inboxes.length := by
  cases moved with
  | tends tends quiet cares =>
    rw [(quiet later comes).1] at closes
    cases closes
  | claims cause =>
    obtain rfl := Progress.running.inj comes
    cases closes
  | takes taken purpose free =>
    obtain rfl := Progress.running.inj comes
    obtain rfl := Option.some.inj closes
    exact ⟨nofun, within _ taken⟩
  | places listener cares previous plain =>
    obtain rfl := Progress.running.inj comes
    have inside := within number (previous.symm.trans closes)
    refine ⟨fun same => ?_, by simpa using Nat.lt_succ_of_lt inside⟩
    exact Nat.lt_irrefl _ (Option.some.inj same ▸ inside)

/-- An open inbox outside of the slot was there before and is not the one that was closed, or it is the
one that the operation closes next. -/
theorem SlotMove.closed (moved : SlotMove session op after progress) {number : Nat}
    (live : after.IsOpen number) (outside : after.bound ≠ some number) :
    (∃ later, progress = .running later ∧ later.closing? = some number) ∨
      op.closing? ≠ some number ∧ session.IsOpen number ∧ session.bound ≠ some number := by
  cases moved with
  | tends tends quiet cares =>
    obtain ⟨live, apart⟩ := (tends.isOpen number).1 live
    exact .inr ⟨apart, live, tends.bound ▸ outside⟩
  | claims cause => exact .inr ⟨nofun, live, outside⟩
  | @takes _ number' taken purpose free =>
    by_cases same : number' = number
    · exact .inl ⟨_, rfl, congrArg some same⟩
    · exact .inr ⟨by simp [free], live, by simp [taken, same]⟩
  | places listener cares previous plain =>
    obtain ⟨inbox, found, live⟩ := live
    have older : number < session.inboxes.length := by
      have within := (List.getElem?_eq_some_iff.1 found).1
      have apart : session.inboxes.length ≠ number := fun same => outside (congrArg some same)
      simp only [List.length_append, List.length_singleton] at within
      omega
    rw [List.getElem?_append_left older] at found
    by_cases was : session.bound = some number
    · exact .inl ⟨_, rfl, previous.trans was⟩
    · exact .inr ⟨nofun, ⟨inbox, found, live⟩, was⟩

/-- The operation looks at the slot of an inactive session next, or it did not before and the session was
as it is. -/
theorem SlotMove.cared (moved : SlotMove session op after progress) (inactive : after.active = false)
    (full : after.bound ≠ none) :
    (∃ later, progress = .running later ∧ later.isCaring = true) ∨
      op.isCaring = false ∧ session.active = false ∧ session.bound ≠ none := by
  cases moved with
  | tends tends quiet cares =>
    rw [tends.active] at inactive
    rw [tends.bound] at full
    cases caring : op.isCaring with
    | true => exact .inl (cares caring inactive full)
    | false => exact .inr ⟨rfl, inactive, full⟩
  | claims cause => exact .inl ⟨_, rfl, rfl⟩
  | takes taken purpose free => exact absurd rfl full
  | places listener cares previous plain => exact .inl ⟨_, rfl, cares⟩

end

/-! ## Inboxes that are looked after -/

/-- The inboxes of a session are looked after. -/
structure Guarded (identity : Identity) (run : Run) : Prop where
  owner : run.state.identity = identity
  targets : ∀ inbox ∈ run.state.inboxes, inbox.target = identity.toText
  plain : run.AllAt fun op => op.isPlain = true
  /-- The inbox in the slot is open. -/
  bound : ∀ number, run.state.bound = some number → run.state.IsOpen number
  /-- Nobody is about to close the inbox in the slot, nor one that does not exist. -/
  closing : run.AllAt fun op => ∀ number, op.closing? = some number →
    run.state.bound ≠ some number ∧ number < run.state.inboxes.length
  /-- Somebody is about to close every other one that is open. -/
  closed : ∀ number, run.state.IsOpen number → run.state.bound ≠ some number →
    run.AnyAt fun op => op.closing? = some number
  /-- Somebody looks at the slot of a session that is inactive. -/
  cared : run.state.active = false → run.state.bound ≠ none → run.AnyAt fun op => op.isCaring = true

theorem guarded_fresh (identity : Identity) (reports : Bool) (receiveTimeout : Nat) :
    Guarded identity { state := fresh identity reports receiveTimeout } where
  owner := rfl
  targets := fun inbox member => nomatch member
  plain := fun member op held => by simp at held
  bound := fun number found => nomatch found
  closing := fun member op held => by simp at held
  closed := by
    rintro number ⟨inbox, found, _⟩
    simp [fresh] at found
  cared := fun inactive => nomatch inactive

section

variable {identity : Identity} {run : Run}

theorem guarded_drift (guarded : Guarded identity run) {after : Session}
    (tends : Tends run.state none after) : Guarded identity (run.drift after []) where
  owner := tends.identity.trans guarded.owner
  targets := tends.targets guarded.targets
  plain := guarded.plain
  bound := by
    intro number found
    exact (tends.isOpen number).2 ⟨guarded.bound number (tends.bound ▸ found), nofun⟩
  closing := by
    intro member op held number closes
    rw [Crew.state_drift, tends.bound, tends.length]
    exact guarded.closing member op held number closes
  closed := by
    intro number live apart
    exact guarded.closed number ((tends.isOpen number).1 live).1 (tends.bound ▸ apart)
  cared := by
    intro inactive full
    exact guarded.cared (tends.active ▸ inactive) (tends.bound ▸ full)

theorem guarded_enter (guarded : Guarded identity run) (command : Command) :
    Guarded identity (run.enter (.begin command) [.begun command]) where
  owner := guarded.owner
  targets := guarded.targets
  plain := Crew.allAt_enter guarded.plain rfl
  bound := guarded.bound
  closing := Crew.allAt_enter guarded.closing nofun
  closed := fun number live apart => Crew.anyAt_enter _ (guarded.closed number live apart)
  cared := fun inactive full => Crew.anyAt_enter _ (guarded.cared inactive full)

theorem guarded_follow (guarded : Guarded identity run) {member : Nat} {op : Op}
    {move : Move Session Op Result} {notes : List Note}
    (held : run.members[member]? = some (.running op))
    (moved : SlotMove run.state op move.state move.progress) :
    Guarded identity (run.follow member move notes) where
  owner := moved.identity.trans guarded.owner
  targets := by
    have same := guarded.owner
    subst same
    exact moved.targets guarded.targets
  plain := Crew.allAt_follow held guarded.plain (fun _ plain => plain) moved.plain
  bound := moved.bound guarded.bound fun number closes => (guarded.closing member op held number closes).1
  closing := by
    have within : ∀ number, run.state.bound = some number → number < run.state.inboxes.length := by
      intro number found
      obtain ⟨inbox, there, _⟩ := guarded.bound number found
      exact (List.getElem?_eq_some_iff.1 there).1
    refine Crew.allAt_follow held guarded.closing ?_ (moved.closing within)
    exact fun _ outside number closes => moved.outside (outside number closes)
  closed := by
    intro number live outside
    rcases moved.closed live outside with ⟨later, comes, closes⟩ | ⟨apart, live, outside⟩
    · exact Crew.anyAt_follow_self held comes closes
    · exact Crew.anyAt_follow held (guarded.closed number live outside) fun closes => absurd closes apart
  cared := by
    intro inactive full
    rcases moved.cared inactive full with ⟨later, comes, cares⟩ | ⟨careless, inactive, full⟩
    · exact Crew.anyAt_follow_self held comes cares
    · refine Crew.anyAt_follow held (guarded.cared inactive full) fun cares => ?_
      rw [careless] at cares
      cases cares

theorem guarded_act (guarded : Guarded identity run) (event : Event) :
    Guarded identity (act run event) := by
  refine @act_induction (Guarded identity) run guarded ?begins ?moves ?loops event
  case begins => exact guarded_enter guarded
  case moves =>
    intro member op told move held moved
    exact guarded_follow guarded held (slotMove_of_moves moved (guarded.plain member op held))
  case loops => exact fun number event => guarded_drift guarded (tends_mapInbox run.state number event)

theorem guarded_onward (guarded : Guarded identity run) (events : List Event) :
    Guarded identity (onward run events) :=
  List.foldlRecOn (motive := Guarded identity) events act guarded fun _ guarded event _ =>
    guarded_act guarded event

end

/-! ## Inboxes that are closed -/

/-- An open inbox was open before, or it is new. -/
theorem SlotMove.wasOpen {session after : Session} {op : Op} {progress : Progress Op Result}
    (moved : SlotMove session op after progress) {number : Nat}
    (within : number < session.inboxes.length) (live : after.IsOpen number) :
    session.IsOpen number := by
  cases moved with
  | tends tends quiet cares => exact ((tends.isOpen number).1 live).1
  | claims cause | takes taken purpose free => exact live
  | places listener cares previous plain =>
    obtain ⟨inbox, found, live⟩ := live
    rw [List.getElem?_append_left within] at found
    exact ⟨inbox, found, live⟩

section

variable {identity : Identity} {run : Run}

theorem wasOpen_act (guarded : Guarded identity run) (event : Event) {number : Nat}
    (within : number < run.state.inboxes.length) (live : (act run event).state.IsOpen number) :
    run.state.IsOpen number := by
  revert live
  refine @act_induction (fun after => after.state.IsOpen number → _) run id ?begins ?moves ?loops event
  case begins => exact fun _ => id
  case moves =>
    intro member op told move held moved
    exact (slotMove_of_moves moved (guarded.plain member op held)).wasOpen within
  case loops =>
    intro inbox event live
    exact (((tends_mapInbox run.state inbox event).isOpen number).1 live).1

/-- A closed inbox is not opened again. -/
theorem wasOpen_onward (guarded : Guarded identity run) (events : List Event) {number : Nat}
    (within : number < run.state.inboxes.length) (live : (onward run events).state.IsOpen number) :
    run.state.IsOpen number := by
  induction events generalizing run with
  | nil => exact live
  | cons event events ih =>
    have longer : run.state.inboxes.length ≤ (act run event).state.inboxes.length :=
      (evolves_onward run [event]).inboxes
    have later := ih (guarded_act guarded event) (Nat.lt_of_lt_of_le within longer) live
    exact wasOpen_act guarded event within later

/-- Whoever wants to listen at a closed inbox is told that the session is closed. -/
theorem Guarded.start (guarded : Guarded identity run) {number : Nat}
    (within : number < run.state.inboxes.length) (shut : ¬ run.state.IsOpen number) :
    run.state.step (.onInbox .request number .start) =
      .done run.state (.done (.error (.sessionClosed identity.toText))) := by
  have found := List.getElem?_eq_getElem within
  have cancelled : run.state.inboxes[number].cancelled = true := by
    rw [← Bool.not_eq_false]
    exact fun live => shut ⟨_, found, live⟩
  have target := guarded.targets _ (List.getElem_mem within)
  simp [step, found, Inbox.step, cancelled, ofInboxMove, afterInbox, putInbox, Inbox.closedFault, target]

end

/-! ## Operations that bind -/

/-- The positions of an operation that binds an inbox. -/
def Op.isBinding : Op → Bool
  | begin (.bind _) | replace _ | onInbox .replacement _ _ | onInbox .orphan _ _ | confirm
  | withdraw => true
  | _ => false

/-- Where an operation that binds an inbox may get to; `late` says that the session was inactive before
it was over. -/
def BindsTo (identity : Identity) (late : Bool) : Progress Op Result → Prop
  | .running op => op.isBinding = true
  | .ended result =>
    result = .done (.error (.sessionClosed identity.toText)) ∨ late = false ∧ result = .done (.ok ())

section

variable {identity : Identity} {late : Bool} {session : Session} {op : Op}

theorem bindsTo_afterInbox (owner : session.identity = identity) (answer : Answer Unit)
    {purpose : Purpose} {number : Nat} {op : Inbox.Op}
    (binding : (Op.onInbox purpose number op).isBinding = true) :
    BindsTo identity late (session.afterInbox answer purpose).progress := by
  cases purpose with
  | request | teardown cause => cases binding
  | replacement => exact rfl
  | orphan => exact .inl (by rw [← owner]; rfl)

theorem bindsTo_ofInboxMove (owner : session.identity = identity) {purpose : Purpose} {number : Nat}
    {op : Inbox.Op} (binding : (Op.onInbox purpose number op).isBinding = true)
    (move : Move Inbox Inbox.Op (Answer Unit)) :
    BindsTo identity late (session.ofInboxMove purpose number move).progress := by
  cases move with
  | go inbox later => cases purpose <;> first | rfl | cases binding
  | done inbox answer =>
    have owner' : (session.putInbox number inbox).identity = identity := owner
    exact bindsTo_afterInbox owner' answer binding

theorem bindsTo_step (owner : session.identity = identity) (known : late = true → session.active = false)
    (binding : op.isBinding = true) : BindsTo identity late (session.step op).progress := by
  have closed : BindsTo identity late (.ended (.done (.error session.closedFault))) :=
    .inl (by rw [← owner]; rfl)
  cases op with
  | begin command =>
    cases command with
    | bind listener =>
      simp only [step, start]
      split
      case isTrue => exact rfl
      case isFalse => exact closed
    | _ => cases binding
  | replace listener =>
    simp only [step]
    split <;> exact rfl
  | onInbox purpose number op =>
    simp only [step]
    split
    case h_1 => exact bindsTo_ofInboxMove owner binding _
    case h_2 => exact bindsTo_afterInbox owner _ binding
  | confirm =>
    simp only [step]
    split
    case isTrue active =>
      refine .inr ⟨?_, rfl⟩
      rw [← Bool.not_eq_true]
      intro inactive
      simp [known inactive] at active
    case isFalse => exact rfl
  | withdraw =>
    simp only [step]
    split
    case h_1 => exact rfl
    case h_2 => exact closed
  | _ => cases binding

theorem bindsTo_resume (owner : session.identity = identity) (binding : op.isBinding = true)
    (stamp : String) (answer : ClientAnswer) :
    BindsTo identity late (session.resume stamp answer op).progress := by
  cases op with
  | onInbox purpose number op =>
    simp only [resume]
    split
    case h_1 => exact bindsTo_ofInboxMove owner binding _
    case h_2 => exact bindsTo_afterInbox owner _ binding
  | begin _ | replace _ | confirm | withdraw => exact binding
  | _ => cases binding

theorem bindsTo_of_moves {told : List Note} {move : Move Session Op Result}
    (owner : session.identity = identity) (known : late = true → session.active = false)
    (binding : op.isBinding = true) (moved : Moves session op told move) :
    BindsTo identity late move.progress := by
  cases moved with
  | step free => exact bindsTo_step owner known binding
  | answer stamp waits admitted => exact bindsTo_resume owner binding stamp _
  | hearing waits => cases op <;> first | cases binding; done | exact binding

end

/-- The story of an operation that binds leads to where such an operation may get to. -/
def Binds (identity : Identity) (session : Session) (story : List Note)
    (progress : Progress Op Result) : Prop :=
  session.identity = identity ∧
    ∀ listener, .begun (.bind listener) ∈ story → BindsTo identity false progress

section

variable {identity : Identity} {run : Run}

theorem binds_act (tidy : run.Tidy) (owner : run.state.identity = identity)
    (binds : run.Keeps (Binds identity)) (event : Event) :
    (act run event).Tidy ∧ (act run event).state.identity = identity ∧
      (act run event).Keeps (Binds identity) := by
  have stable : ∀ {after : Session}, Evolves run.state after → ∀ story progress,
      Binds identity run.state story progress → Binds identity after story progress := by
    intro after evolves story progress binds
    exact ⟨evolves.identity.trans binds.1, binds.2⟩
  refine @act_induction
    (fun after => after.Tidy ∧ after.state.identity = identity ∧ after.Keeps (Binds identity))
    run ⟨tidy, owner, binds⟩ ?begins ?moves ?loops event
  case begins =>
    intro command
    refine ⟨Crew.tidy_enter tidy _, owner, Crew.keeps_enter tidy binds ⟨owner, ?_⟩⟩
    intro listener begun
    obtain rfl := Note.begun.inj (List.mem_singleton.1 begun)
    exact rfl
  case moves =>
    intro member op told move held moved
    have evolves := evolves_of_moves moved
    refine ⟨Crew.tidy_follow held tidy, evolves.identity.trans owner,
      Crew.keeps_follow held binds (stable evolves) ?_⟩
    rintro ⟨_, before⟩
    refine ⟨evolves.identity.trans owner, ?_⟩
    intro listener begun
    rcases List.mem_append.1 begun with old | new
    · exact bindsTo_of_moves owner nofun (before listener old) moved
    · exact absurd new (begun_not_mem_of_moves moved _)
  case loops =>
    intro number event
    have evolves := evolves_mapInbox run.state number fun inbox => inbox.onLoop event
    exact ⟨Crew.tidy_drift tidy _, evolves.identity.trans owner, Crew.keeps_drift binds (stable evolves)⟩

theorem binds_onward (tidy : run.Tidy) (owner : run.state.identity = identity)
    (binds : run.Keeps (Binds identity)) (events : List Event) :
    (onward run events).Keeps (Binds identity) := by
  induction events generalizing run with
  | nil => exact binds
  | cons event events ih =>
    obtain ⟨tidy, owner, binds⟩ := binds_act tidy owner binds event
    exact ih tidy owner binds

/-- A member that binds to an inactive session. -/
def Late (identity : Identity) (run : Run) (member : Nat) : Prop :=
  run.state.identity = identity ∧ run.state.active = false ∧
    ∃ progress, run.members[member]? = some progress ∧ BindsTo identity true progress

theorem late_act {member : Nat} (late : Late identity run member) (event : Event) :
    Late identity (act run event) member := by
  obtain ⟨owner, inactive, progress, held, binding⟩ := late
  have evolves := evolves_onward run [event]
  refine ⟨evolves.identity.trans owner, evolves.inactive inactive, ?_⟩
  refine @member_act (fun progress _ => BindsTo identity true progress) run member progress held binding ?_
    event
  rintro op told move rfl moved
  exact bindsTo_of_moves owner (fun _ => inactive) binding moved

/-- An operation that binds to an inactive session ends by saying that it is closed. -/
theorem Late.ended {member : Nat} (late : Late identity run member) (events : List Event)
    {result : Result} (ended : (onward run events).members[member]? = some (.ended result)) :
    result = .done (.error (.sessionClosed identity.toText)) := by
  induction events generalizing run with
  | nil =>
    obtain ⟨_, _, progress, held, binding⟩ := late
    obtain rfl := Option.some.inj (held.symm.trans ended)
    rcases binding with closed | ⟨impossible, _⟩
    · exact closed
    · cases impossible
  | cons event events ih => exact ih (late_act late event) ended

end

/-! ## No inbox is left behind -/

/-- What it means that binding inboxes to a session and closing it leave none behind. -/
structure LeavesNone (identity : Identity) (run : Run) : Prop where
  /-- At any time, an inbox outside of the slot is closed, or somebody's next step closes it. -/
  watched : ∀ number, run.state.IsOpen number → run.state.bound ≠ some number →
    run.AnyAt fun op => op.closing? = some number
  /-- Once all operations are over, the inboxes that are not closed are the one in the slot of a session
  that is active. -/
  settled : (∀ member, member < run.members.length → Ended run member) →
    ∀ number, run.state.IsOpen number ↔ run.state.active = true ∧ run.state.bound = some number
  emptied : (∀ member, member < run.members.length → Ended run member) →
    run.state.active = false → run.state.bound = none
  /-- Binding succeeds or says that the session is closed, whatever closing the inbox before said. -/
  answered : ∀ member listener result, .begun (.bind listener) ∈ run.story member →
    run.members[member]? = some (.ended result) →
      result = .done (.ok ()) ∨ result = .done (.error (.sessionClosed identity.toText))
  /-- It says so if it begins after the session turned inactive. -/
  tooLate : ∀ listener more result, run.state.active = false →
    (onward (act run (.begins (.bind listener))) more).members[run.members.length]? =
        some (.ended result) →
      result = .done (.error (.sessionClosed identity.toText))
  /-- It also says so if the session turned inactive before its last look. -/
  overtaken : ∀ member listener op more result, .begun (.bind listener) ∈ run.story member →
    run.members[member]? = some (.running op) → run.state.active = false →
      (onward run more).members[member]? = some (.ended result) →
        result = .done (.error (.sessionClosed identity.toText))
  /-- Nobody listens at an inbox that is closed, then or later, and trying to changes nothing. -/
  shut : ∀ number more, number < run.state.inboxes.length → ¬ run.state.IsOpen number →
    (onward run more).state.step (.onInbox .request number .start) =
      .done (onward run more).state (.done (.error (.sessionClosed identity.toText)))

/-- Where all operations are over, none is at any position. -/
theorem not_anyAt {run : Run} (quiet : ∀ member, member < run.members.length → Ended run member)
    (Kind : Op → Prop) : ¬ run.AnyAt Kind := by
  rintro ⟨member, op, held, _⟩
  obtain ⟨result, ended⟩ := quiet member (List.getElem?_eq_some_iff.1 held).1
  cases held.symm.trans ended

theorem Guarded.emptied {identity : Identity} {run : Run} (guarded : Guarded identity run)
    (quiet : ∀ member, member < run.members.length → Ended run member)
    (inactive : run.state.active = false) : run.state.bound = none := by
  by_contra full
  exact not_anyAt quiet _ (guarded.cared inactive full)

theorem Guarded.settled {identity : Identity} {run : Run} (guarded : Guarded identity run)
    (quiet : ∀ member, member < run.members.length → Ended run member) (number : Nat) :
    run.state.IsOpen number ↔ run.state.active = true ∧ run.state.bound = some number := by
  constructor
  · intro live
    have inSlot : run.state.bound = some number := by
      by_contra outside
      exact not_anyAt quiet _ (guarded.closed number live outside)
    refine ⟨?_, inSlot⟩
    rw [← Bool.not_eq_false]
    intro inactive
    rw [guarded.emptied quiet inactive] at inSlot
    cases inSlot
  · exact fun ⟨_, inSlot⟩ => guarded.bound number inSlot

/-- However binding inboxes to a session and closing it come in between each other and between the other
operations, and whatever the client answers, no inbox is left behind.  All operations can always be
driven to their end. -/
theorem leavesNone_run (identity : Identity) (reports : Bool) (receiveTimeout : Nat)
    (events : List Event) :
    LeavesNone identity (run (fresh identity reports receiveTimeout) events) ∧
      ∃ more, ∀ member,
        member < (run (fresh identity reports receiveTimeout) (events ++ more)).members.length →
          Ended (run (fresh identity reports receiveTimeout) (events ++ more)) member := by
  have guarded : Guarded identity (run (fresh identity reports receiveTimeout) events) :=
    guarded_onward (guarded_fresh identity reports receiveTimeout) events
  have binds : (run (fresh identity reports receiveTimeout) events).Keeps (Binds identity) :=
    binds_onward (fun _ _ told => by simp at told) rfl (fun _ _ held => by simp at held) events
  refine ⟨?_, ?_⟩
  · constructor
    case watched => exact guarded.closed
    case settled => exact guarded.settled
    case emptied => exact guarded.emptied
    case answered =>
      intro member listener result begun ended
      rcases (binds member _ ended).2 listener begun with closed | ⟨_, done⟩
      · exact .inr closed
      · exact .inl done
    case tooLate =>
      intro listener more result inactive ended
      have late : Late identity (act (run (fresh identity reports receiveTimeout) events)
          (.begins (.bind listener)))
          (run (fresh identity reports receiveTimeout) events).members.length :=
        ⟨guarded.owner, inactive, .running (.begin (.bind listener)),
          by simp [act, Crew.members_enter], rfl⟩
      exact late.ended more ended
    case overtaken =>
      intro member listener op more result begun held inactive ended
      have binding := (binds member _ held).2 listener begun
      have late : Late identity _ member := ⟨guarded.owner, inactive, _, held, binding⟩
      exact late.ended more ended
    case shut =>
      intro number more within closed
      have evolves := evolves_onward (run (fresh identity reports receiveTimeout) events) more
      refine (guarded_onward guarded more).start (Nat.lt_of_lt_of_le within evolves.inboxes) ?_
      exact fun live => closed (wasOpen_onward guarded more within live)
  · obtain ⟨more, ended⟩ := exists_all_ended (run (fresh identity reports receiveTimeout) events)
    refine ⟨more, ?_⟩
    rw [run_append]
    exact ended

end Session

end DeviceGateway
