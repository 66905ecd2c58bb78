/-
# Overtaken removals

An installation overtakes a removal where the client clears the callback first and installs it next, and
the two are noted in the opposite order.  Then the inbox that is closed later has no note of the callback,
and the client keeps it.  There is no other way: a callback stays with the client of a closed session only
after somebody was asked to remove one of its kind and was overtaken.
-/

import DeviceGateway.Proofs.Session.Callbacks

namespace DeviceGateway

namespace Inbox

/-- The kind of callback that an operation removes, until that is noted. -/
def Op.removes? : Op → Option CallbackKind
  | removing kind | removed kind => some kind
  | _ => none

section

variable {inbox state : Inbox} {op later : Op} {kind : CallbackKind}

/-- No operation turns into a removal. -/
theorem removes?_of_step (comes : inbox.step op = .go state later) (removes : later.removes? = some kind) :
    op.removes? = some kind := by
  cases op with
  | removing kind' =>
    cases comes
    exact removes
  | removed kind' => cases comes
  | install kind' | confirm kind' | withdraw kind' | start | launch =>
    simp only [step] at comes
    split at comes <;> cases comes <;> cases removes
  | clear kind' result =>
    cases kind' <;> simp only [step, afterClear] at comes <;> split at comes <;> cases comes <;>
      cases removes
  | installing kind' callback | installed kind' | withdrawing kind' | cancel | clearing kind' result =>
    cases comes
    cases removes

theorem removes?_of_resume {answer : Answer Unit} (comes : inbox.resume answer op = .go state later)
    (removes : later.removes? = some kind) : op.removes? = some kind := by
  cases op with
  | removing kind' | installing kind' callback | withdrawing kind' =>
    cases answer <;> cases comes <;> exact removes
  | clearing kind' result =>
    cases kind' <;> cases comes
    cases removes
  | _ =>
    cases comes
    exact removes

end

end Inbox

namespace Session

/-! ## Who removes -/

/-- The kind of callback that an operation was asked to remove, until that is noted. -/
def Op.removes? : Op → Option CallbackKind
  | begin (.remove kind) => some kind
  | lookup inner | onInbox _ _ inner => inner.removes?
  | _ => none

section

variable {session : Session} {op later : Op} {kind : CallbackKind}

theorem removes?_of_start {command : Command}
    (comes : (session.start command).progress = .running later) (removes : later.removes? = some kind) :
    command = .remove kind := by
  have accepted : ∀ {command}, (session.accept command).progress = .running later →
      command = .remove kind := by
    intro command comes
    cases command with
    | send message | sendBatch messages | updateReported patch =>
      simp only [accept, forward] at comes
      split at comes <;> cases comes
      cases removes
    | remove other =>
      cases comes
      cases removes
      rfl
    | _ =>
      cases comes
      cases removes
  unfold start at comes
  split at comes
  case h_1 => exact accepted comes
  case h_2 =>
    split at comes
    case isTrue => cases comes
    case isFalse => split at comes <;> [exact accepted comes; cases comes]
  case h_3 => split at comes <;> [exact accepted comes; cases comes]

theorem removes?_of_afterInbox {answer : Answer Unit} {purpose : Purpose}
    (comes : (session.afterInbox answer purpose).progress = .running later) : later.removes? = none := by
  cases purpose <;> cases comes <;> rfl

theorem removes?_of_ofInboxMove {purpose : Purpose} {number : Nat} {inner : Inbox.Op}
    {move : Move Inbox Inbox.Op (Answer Unit)}
    (keeps : ∀ {state : Inbox} {later : Inbox.Op}, move = .go state later →
      later.removes? = some kind → inner.removes? = some kind)
    (comes : (session.ofInboxMove purpose number move).progress = .running later)
    (removes : later.removes? = some kind) : inner.removes? = some kind := by
  cases move with
  | go inbox inner' =>
    cases comes
    exact keeps rfl removes
  | done inbox answer =>
    rw [removes?_of_afterInbox comes] at removes
    cases removes

theorem removes?_of_step (free : op.request? = none)
    (comes : (session.step op).progress = .running later) (removes : later.removes? = some kind) :
    op.removes? = some kind := by
  cases op with
  | begin command =>
    obtain rfl := removes?_of_start comes removes
    rfl
  | lookup inner =>
    simp only [step] at comes
    split at comes <;> cases comes
    exact removes
  | onInbox purpose number inner =>
    simp only [step] at comes
    split at comes
    case h_1 inbox found => exact removes?_of_ofInboxMove Inbox.removes?_of_step comes removes
    case h_2 =>
      rw [removes?_of_afterInbox comes] at removes
      cases removes
  | claim cause =>
    cases cause <;> simp only [step] at comes <;> split at comes <;> cases comes <;> cases removes
  | detach cause | replace listener | withdraw | confirm =>
    simp only [step] at comes
    split at comes <;> cases comes <;> cases removes
  | fetching | sending _ | passing _ | closingClient _ _ | reporting _ => cases free

theorem removes?_of_resume {stamp : String} {call : ClientCall} {answer : ClientAnswer}
    (waits : op.request? = some (.call call))
    (comes : (session.resume stamp answer op).progress = .running later)
    (removes : later.removes? = some kind) : op.removes? = some kind := by
  cases op with
  | onInbox purpose number inner =>
    simp only [resume] at comes
    split at comes
    case h_1 inbox found => exact removes?_of_ofInboxMove Inbox.removes?_of_resume comes removes
    case h_2 =>
      rw [removes?_of_afterInbox comes] at removes
      cases removes
  | fetching =>
    simp only [resume] at comes
    split at comes <;> cases comes
    cases removes
  | sending call =>
    simp only [resume] at comes
    split at comes
    case h_1 => cases comes
    case h_2 =>
      split at comes <;> cases comes
      cases removes
  | passing call => cases comes
  | closingClient cause inbox =>
    cases cause with
    | asked => cases comes
    | rejected fault =>
      simp only [resume, tornDown] at comes
      split at comes <;> cases comes
      cases removes
  | begin _ | lookup _ | claim _ | detach _ | reporting _ | replace _ | confirm | withdraw =>
    cases waits

/-- No operation of a session turns into a removal. -/
theorem removes?_of_moves {told : List Note} {move : Move Session Op Result}
    (moved : Moves session op told move) (comes : move.progress = .running later)
    (removes : later.removes? = some kind) : op.removes? = some kind := by
  cases moved with
  | step free => exact removes?_of_step free comes removes
  | answer stamp waits admitted => exact removes?_of_resume waits comes removes
  | hearing waits =>
    cases op with
    | reporting fault => cases comes
    | onInbox purpose number inner => cases asked : inner.awaits <;> simp [Op.request?, asked] at waits
    | _ => cases waits

end

namespace Hosted

/-- Whoever removes a callback, and whoever was overtaken by then, was asked to remove it. -/
structure Answerable (hosted : Hosted) : Prop where
  removing : ∀ member op kind, hosted.run.members[member]? = some (.running op) →
    op.removes? = some kind → .begun (.remove kind) ∈ hosted.run.story member
  overtaken : ∀ member kind, (member, kind) ∈ hosted.overtaken →
    .begun (.remove kind) ∈ hosted.run.story member

section

variable {identity : Identity} {hosted : Hosted}

theorem mem_overtakes {member other : Nat} {kind : CallbackKind}
    (listed : (other, kind) ∈ hosted.overtakes member) :
    other = member ∧ ∃ op, hosted.run.members[member]? = some (.running op) ∧
      op.removes? = some kind := by
  unfold overtakes at listed
  split at listed
  case h_1 purpose number kind' held =>
    split at listed
    case isTrue =>
      obtain ⟨rfl, rfl⟩ := Prod.mk.inj (List.mem_singleton.1 listed)
      exact ⟨rfl, _, held, rfl⟩
    case isFalse => cases listed
  case h_2 => cases listed

/-- What a member has done stays done. -/
theorem answerable_enter (answerable : hosted.Answerable) (command : Command) :
    Answerable { hosted with run := hosted.run.enter (.begin command) [.begun command] } := by
  have kept : ∀ {member : Nat} {note : Note}, note ∈ hosted.run.story member →
      note ∈ (hosted.run.enter (.begin command) [.begun command]).story member :=
    fun told => Crew.mem_story.2 ((Crew.mem_log_enter _).2 (.inl (Crew.mem_story.1 told)))
  constructor
  case removing =>
    intro member op kind held removes
    rw [Crew.members_enter] at held
    split at held
    case isTrue same =>
      subst same
      obtain rfl := Progress.running.inj (Option.some.inj held)
      cases command <;> cases removes
      exact Crew.mem_story.2 ((Crew.mem_log_enter _).2 (.inr ⟨rfl, List.mem_singleton_self _⟩))
    case isFalse => exact kept (answerable.removing member op kind held removes)
  case overtaken => exact fun member kind listed => kept (answerable.overtaken member kind listed)

theorem answerable_drift (answerable : hosted.Answerable) (state : Session) :
    Answerable { hosted with run := hosted.run.drift state [] } := by
  constructor
  case removing =>
    intro member op kind held removes
    rw [Crew.story_drift]
    exact answerable.removing member op kind held removes
  case overtaken =>
    intro member kind listed
    rw [Crew.story_drift]
    exact answerable.overtaken member kind listed

theorem answerable_follow (answerable : hosted.Answerable) {member : Nat} {op : Op}
    (held : hosted.run.members[member]? = some (.running op)) {told notes : List Note}
    {move : Move Session Op Result} (moved : Moves hosted.run.state op told move) :
    Answerable (hosted.follow member move notes) := by
  have kept : ∀ {other : Nat} {note : Note}, note ∈ hosted.run.story other →
      note ∈ (hosted.run.follow member move notes).story other :=
    fun told => Crew.mem_story.2 (Crew.mem_log_follow.2 (.inl (Crew.mem_story.1 told)))
  constructor
  case removing =>
    intro other later kind held' removes
    rw [follow, Crew.members_follow held] at held'
    split at held'
    case isTrue same =>
      subst same
      have removed := removes?_of_moves moved (Option.some.inj held') removes
      exact kept (answerable.removing other op kind held removed)
    case isFalse => exact kept (answerable.removing other later kind held' removes)
  case overtaken =>
    intro other kind listed
    rcases List.mem_append.1 listed with before | now
    · exact kept (answerable.overtaken other kind before)
    · obtain ⟨rfl, removal, held', removes⟩ := mem_overtakes now
      exact kept (answerable.removing other removal kind held' removes)

theorem answerable_act (punctual : hosted.Punctual) (answerable : hosted.Answerable) (event : Event) :
    Answerable (act hosted event) := by
  have happens := happens_act punctual event
  generalize act hosted event = after at happens ⊢
  cases happens with
  | stays => exact answerable
  | takes => exact ⟨answerable.removing, answerable.overtaken⟩
  | begins command => exact answerable_enter answerable command
  | moves held moved => exact answerable_follow answerable held moved
  | loops => exact answerable_drift answerable _

theorem answerable_onward (accounted : Accounted identity hosted) (answerable : hosted.Answerable)
    (events : List Event) : Answerable (onward hosted events) := by
  induction events generalizing hosted with
  | nil => exact answerable
  | cons event events ih =>
    exact ih (accounted_act accounted event) (answerable_act accounted.punctual answerable event)

end

end Hosted

/-- What a closed session leaves at its client: callbacks whose removal was overtaken, and no others. -/
structure KeepsOnlyOvertaken (hosted : Hosted) : Prop where
  /-- Once the session is closed and all operations on it are over, the client has a callback only if a
  removal of its kind was overtaken. -/
  left : (∀ member, member < hosted.run.members.length → Ended hosted.run member) →
    hosted.run.state.active = false → ∀ kind, hosted.callbacks kind ≠ none →
      ∃ member, (member, kind) ∈ hosted.overtaken
  /-- Who was overtaken had been asked to remove a callback of that kind. -/
  asked : ∀ member kind, (member, kind) ∈ hosted.overtaken →
    .begun (.remove kind) ∈ hosted.run.story member

theorem keepsOnlyOvertaken_host (identity : Identity) (reports : Bool) (receiveTimeout : Nat)
    (events : List Hosted.Event) :
    KeepsOnlyOvertaken (host (fresh identity reports receiveTimeout) events) := by
  have fresh := Hosted.accounted_fresh identity reports receiveTimeout
  have accounted := Hosted.accounted_onward fresh events
  have answerable : Hosted.Answerable (host (.fresh identity reports receiveTimeout) events) :=
    Hosted.answerable_onward fresh
      ⟨fun _ _ _ held => by simp at held, fun _ _ listed => by simp at listed⟩ events
  exact ⟨fun quiet inactive _ => accounted.overtaken quiet inactive, answerable.overtaken⟩

/-! ## An overtaken removal -/

/-- An installation overtakes a removal: the removal takes effect first and is answered last. -/
def overtaking : List Hosted.Event :=
  let steps (member : Nat) : Hosted.Event := .runs (.steps member)
  [.runs (.begins (.bind .logging)), steps 0, steps 0, steps 0,
    .runs (.begins (.remove .method)), steps 1, steps 1, .takesEffect 1,
    .runs (.begins (.install .method)), steps 2, steps 2, steps 2, .takesEffect 2, .confirms 2,
    steps 2, steps 2,
    .confirms 1, steps 1,
    .runs (.begins .close), steps 3, steps 3, steps 3, steps 3, steps 3, steps 3,
    .runs (.answers 3 "" (.done (.ok ())))]

def sensor : Identity where
  device := "gateway"
  module? := some "sensor"
  device_valid := rfl
  module_valid := by
    rintro name ⟨⟩
    rfl

/-- Then all operations are over, the session is closed, and its client has a callback. -/
theorem left_of_overtaking :
    (∀ member, member < (host (fresh sensor true 20000) overtaking).run.members.length →
        Ended (host (fresh sensor true 20000) overtaking).run member) ∧
      (host (fresh sensor true 20000) overtaking).run.state.active = false ∧
      (host (fresh sensor true 20000) overtaking).callbacks .method =
        some (.toListener .logging "gateway/sensor") := by
  refine ⟨?_, rfl, rfl⟩
  intro member within
  have four : member < 4 := within
  obtain rfl | rfl | rfl | rfl : member = 0 ∨ member = 1 ∨ member = 2 ∨ member = 3 := by omega
  all_goals exact ⟨_, rfl⟩

end Session

end DeviceGateway
