/-
# Callbacks that stay behind

Closing an inbox clears the callbacks that the inbox has noted.  A note is written only after the client
has answered, by the operation that installs and by the one that removes.  So a removal that took effect
before an installation may be noted after it: then the inbox believes that there is no callback, closing
it clears nothing, and the callback stays with the client of a closed session.

This is the only way in which one stays behind.  As long as no removal is overtaken, every callback that
the client has is accounted for: somebody is about to clear it, or somebody is about to note it, or it is
noted, and then whoever closes the inbox finds the note.
-/

import DeviceGateway.Proofs.Session.Hosted

namespace DeviceGateway

namespace Inbox

/-- The moves of an operation on an inbox whose calls all succeed. -/
inductive Acts (inbox : Inbox) : Op → Move Inbox Op (Answer Unit) → Prop
  | moves {op : Op} (free : op.awaits = none) : Acts inbox op (inbox.step op)
  | told {op : Op} {call : ClientCall} (waits : op.awaits = some call) :
      Acts inbox op (inbox.resume (.ok ()) op)

/-- Whether an operation still looks at the note of a callback on an inbox that is closed. -/
def Op.covers (kind : CallbackKind) : Op → Bool
  | cancel | clear .method _ => true
  | clearing .method _ | clear .desired _ => kind = .desired
  | confirm other | withdraw other => other = kind
  | _ => false

section

variable {inbox : Inbox} {op : Op} {move : Move Inbox Op (Answer Unit)}

/-- Whoever installed a callback notes it. -/
theorem Acts.installs {kind : CallbackKind} {callback : Callback} (acts : Acts inbox op move)
    (waits : op.awaits = some (.setCallback kind (some callback))) :
    move = .go inbox (.installed kind) := by
  cases op with
  | installing kind' callback' =>
    cases acts with
    | moves free => cases free
    | told =>
      simp only [Op.awaits, Option.some.injEq, ClientCall.setCallback.injEq] at waits
      obtain ⟨rfl, rfl⟩ := waits
      rfl
  | _ => cases waits

theorem Acts.notes {kind : CallbackKind} (acts : Acts inbox (.installed kind) move) :
    move.state.noted kind = true := by
  cases acts with
  | moves free => simp [step]
  | told waits => cases waits

/-- A note is taken back by an operation that is about to clear the callback, or after a removal. -/
theorem Acts.owes (acts : Acts inbox op move) {kind : CallbackKind} (noted : inbox.noted kind = true) :
    move.state.noted kind = true ∨ op = .removed kind ∨
      ∃ state later, move = .go state later ∧ later.awaits = some (.setCallback kind none) := by
  cases acts with
  | moves free =>
    cases op with
    | installing kind' callback | withdrawing kind' | removing kind' | clearing kind' result => cases free
    | installed kind' =>
      by_cases same : kind = kind'
      · subst same
        simp [step]
      · simp [step, same, noted]
    | removed kind' =>
      by_cases same : kind = kind'
      · simp [same]
      · simp [step, same, noted]
    | withdraw kind' =>
      by_cases same : kind = kind'
      · subst same
        simp only [step, noted, if_true]
        exact .inr (.inr ⟨_, _, rfl, rfl⟩)
      · simp only [step]
        split
        case isTrue => exact .inl (by simpa [same] using noted)
        case isFalse => exact .inl noted
    | clear kind' result =>
      by_cases same : kind = kind'
      · subst same
        simp only [step, noted, if_true]
        exact .inr (.inr ⟨_, _, rfl, rfl⟩)
      · simp only [step]
        split
        case isTrue => exact .inl (by simpa [same] using noted)
        case isFalse => cases kind' <;> exact .inl noted
    | install kind' | confirm kind' | start | launch =>
      simp only [step]
      split <;> exact .inl noted
    | cancel => exact .inl noted
  | told waits =>
    cases op with
    | installing kind' callback | withdrawing kind' | removing kind' => exact .inl noted
    | clearing kind' result => cases kind' <;> exact .inl noted
    | _ => cases waits

/-- On a closed inbox, whoever writes a note or looks at one goes on looking until it is taken back. -/
theorem Acts.covers (acts : Acts inbox op move) {kind : CallbackKind}
    (cancelled : move.state.cancelled = true) (noted : move.state.noted kind = true) :
    (inbox.cancelled = true ∧ inbox.noted kind = true ∧ op.covers kind = false) ∨
      ∃ state later, move = .go state later ∧ later.covers kind = true := by
  cases acts with
  | moves free =>
    cases op with
    | installing kind' callback | withdrawing kind' | removing kind' | clearing kind' result => cases free
    | installed kind' =>
      by_cases same : kind' = kind
      · exact .inr ⟨_, _, rfl, by simp [Op.covers, same]⟩
      · refine .inl ⟨by simpa [step] using cancelled, ?_, rfl⟩
        simpa [step, Ne.symm same] using noted
    | removed kind' =>
      by_cases same : kind' = kind
      · subst same
        simp [step] at noted
      · refine .inl ⟨by simpa [step] using cancelled, ?_, rfl⟩
        simpa [step, Ne.symm same] using noted
    | confirm kind' =>
      have closed : inbox.cancelled = true := by
        simp only [step] at cancelled
        split at cancelled
        case isTrue closed => exact closed
        case isFalse => exact cancelled
      simp only [step, closed, if_true, Move.state_go] at noted ⊢
      by_cases same : kind' = kind
      · exact .inr ⟨_, _, rfl, by simp [Op.covers, same]⟩
      · exact .inl ⟨trivial, noted, by simp [Op.covers, same]⟩
    | withdraw kind' =>
      simp only [step] at cancelled noted
      by_cases same : kind = kind'
      · subst same
        split at noted <;> simp_all
      · refine .inl ⟨?_, ?_, by simp [Op.covers, Ne.symm same]⟩
        · split at cancelled <;> simpa using cancelled
        · split at noted <;> simpa [same] using noted
    | clear kind' result =>
      simp only [step] at cancelled noted ⊢
      cases kind' with
      | method => split at noted <;> cases kind <;> simp_all [afterClear, Op.covers]
      | desired => split at noted <;> cases kind <;> simp_all [afterClear, Op.covers]
    | cancel => exact .inr ⟨_, _, rfl, rfl⟩
    | install kind' | start | launch =>
      simp only [step] at cancelled noted
      refine .inl ⟨?_, ?_, rfl⟩
      · split at cancelled <;> exact cancelled
      · split at noted <;> exact noted
  | told waits =>
    cases op with
    | installing kind' callback | withdrawing kind' | removing kind' => exact .inl ⟨cancelled, noted, rfl⟩
    | clearing kind' result =>
      cases kind' <;> cases kind <;>
        first
        | exact .inl ⟨cancelled, noted, rfl⟩
        | exact .inr ⟨_, _, rfl, rfl⟩
    | _ => cases waits

end

end Inbox

namespace Session

/-! ## What a move means for the notes -/

/-- The number of the inbox that an operation is at. -/
def inboxOf : Progress Op Result → Option Nat
  | .running (.onInbox _ number _) => some number
  | _ => none

/-- What a move of an operation means for the notes of the inboxes, where all calls about callbacks
succeed. -/
inductive NoteMove (session : Session) : Op → Move Session Op Result → Prop
  /-- It is at no inbox; the notes stay as they are, and a new inbox has none. -/
  | aside {op : Op} {move : Move Session Op Result} (off : inboxOf (.running op) = none)
      (kept : ∀ (number : Nat) (inbox : Inbox), session.inboxes[number]? = some inbox →
        move.state.inboxes[number]? = some inbox)
      (blank : ∀ (number : Nat) (inbox : Inbox), move.state.inboxes[number]? = some inbox →
        session.inboxes[number]? = some inbox ∨ ∀ kind, inbox.noted kind = false)
      (comes : ∀ number, inboxOf move.progress = some number → session.bound = some number) :
      NoteMove session op move
  /-- It is at an inbox. -/
  | works {number : Nat} {inbox : Inbox} {inner : Inbox.Op}
      {move : Move Inbox Inbox.Op (Answer Unit)} (purpose : Purpose)
      (found : session.inboxes[number]? = some inbox) (acts : inbox.Acts inner move) :
      NoteMove session (.onInbox purpose number inner) (session.ofInboxMove purpose number move)

/-- A move that leaves the inboxes as they are and is not at one before. -/
theorem noteMove_idle {session : Session} {op : Op} {move : Move Session Op Result}
    (off : inboxOf (.running op) = none) (same : move.state.inboxes = session.inboxes)
    (comes : ∀ number, inboxOf move.progress = some number → session.bound = some number) :
    NoteMove session op move := by
  refine .aside off ?_ ?_ comes
  · intro number inbox found
    rwa [same]
  · intro number inbox found
    rw [same] at found
    exact .inl found

/-- The same for a move that does not lead to one either. -/
theorem noteMove_off {session : Session} {op : Op} {move : Move Session Op Result}
    (off : inboxOf (.running op) = none) (same : move.state.inboxes = session.inboxes)
    (away : inboxOf move.progress = none) : NoteMove session op move := by
  refine noteMove_idle off same ?_
  rw [away]
  exact nofun

/-- Nothing begins at an inbox. -/
theorem inboxOf_start (session : Session) (command : Command) :
    inboxOf (session.start command).progress = none := by
  have accepted : ∀ command, inboxOf (session.accept command).progress = none := by
    intro command
    cases command with
    | send message | sendBatch messages | updateReported patch =>
      simp only [accept, forward]
      split <;> rfl
    | _ => rfl
  unfold start
  split
  case h_1 => exact accepted .close
  case h_2 => split <;> [rfl; (split <;> [exact accepted _; rfl])]
  case h_3 => split <;> [exact accepted command; rfl]

theorem noteMove_step (session : Session) {op : Op} (free : op.request? = none)
    (within : ∀ number, inboxOf (.running op) = some number → number < session.inboxes.length) :
    NoteMove session op (session.step op) := by
  cases op with
  | begin command => exact noteMove_off rfl (by simp [step]) (inboxOf_start session command)
  | lookup inner =>
    simp only [step]
    split
    case h_1 number found => exact noteMove_idle rfl rfl fun _ comes => found.trans comes
    case h_2 => exact noteMove_off rfl rfl rfl
  | onInbox purpose number inner =>
    have found := List.getElem?_eq_getElem (within number rfl)
    have idle : inner.awaits = none := by simpa [Op.request?] using free
    simp only [step, found]
    exact .works purpose found (.moves idle)
  | claim cause =>
    simp only [step]
    split
    case isTrue => exact noteMove_off rfl rfl rfl
    case isFalse => cases cause <;> exact noteMove_off rfl rfl rfl
  | detach cause | withdraw =>
    simp only [step]
    split
    case h_1 number found => exact noteMove_idle rfl rfl fun _ comes => found.trans comes
    case h_2 => exact noteMove_off rfl rfl rfl
  | replace listener =>
    have state : (session.step (.replace listener)).state.inboxes =
        session.inboxes ++ [session.newInbox listener] := by
      simp only [step]
      split <;> rfl
    refine .aside rfl ?_ ?_ ?_
    · intro number inbox found
      rw [state, List.getElem?_append_left (List.getElem?_eq_some_iff.1 found).1]
      exact found
    · intro number inbox found
      rw [state, List.getElem?_append] at found
      split at found
      case isTrue => exact .inl found
      case isFalse =>
        obtain rfl := List.mem_singleton.1 (List.mem_of_getElem? found)
        exact .inr fun kind => by cases kind <;> rfl
    · intro number comes
      simp only [step] at comes
      split at comes
      case h_1 previous found => exact found.trans comes
      case h_2 => cases comes
  | confirm =>
    simp only [step]
    split <;> exact noteMove_off rfl rfl rfl
  | fetching | sending _ | passing _ | closingClient _ _ | reporting _ => cases free

theorem noteMove_resume (session : Session) {op : Op} {call : ClientCall} (stamp : String)
    (answer : ClientAnswer) (waits : op.request? = some (.call call))
    (off : inboxOf (.running op) = none) : NoteMove session op (session.resume stamp answer op) := by
  cases op with
  | fetching =>
    simp only [resume]
    split <;> exact noteMove_off rfl rfl rfl
  | sending call =>
    simp only [resume]
    split
    case h_1 => exact noteMove_off rfl rfl rfl
    case h_2 => split <;> exact noteMove_off rfl rfl rfl
  | passing call => exact noteMove_off rfl rfl rfl
  | onInbox purpose number inner => cases off
  | closingClient cause inbox =>
    cases cause with
    | asked => exact noteMove_off rfl rfl rfl
    | rejected fault =>
      simp only [resume, tornDown]
      split <;> exact noteMove_off rfl rfl rfl
  | begin _ | lookup _ | claim _ | detach _ | reporting _ | replace _ | confirm | withdraw =>
    cases waits

/-- What the moves of an operation mean for the notes, where it is told of every call about a callback
that it succeeded. -/
theorem noteMove_of_moves {session : Session} {op : Op} {told : List Note}
    {move : Move Session Op Result} (moved : Moves session op told move)
    (within : ∀ number, inboxOf (.running op) = some number → number < session.inboxes.length)
    (succeeds : op.callbackCall? ≠ none → move = session.resume "" (.done (.ok ())) op) :
    NoteMove session op move := by
  cases moved with
  | step free => exact noteMove_step session free within
  | answer stamp waits admitted =>
    cases op with
    | onInbox purpose number inner =>
      have found := List.getElem?_eq_getElem (within number rfl)
      obtain ⟨call', asked, same⟩ := Option.map_eq_some_iff.1 waits
      obtain ⟨kind, callback, rfl⟩ := Inbox.Op.awaits_eq_some asked
      have calls : (Op.onInbox purpose number inner).callbackCall? ≠ none := by
        simp [Op.callbackCall?, asked]
      rw [succeeds calls]
      simp only [resume, found]
      exact .works purpose found (.told asked)
    | _ => exact noteMove_resume session stamp _ waits rfl
  | hearing waits =>
    cases op with
    | reporting fault => exact noteMove_off rfl rfl rfl
    | onInbox purpose number op => cases asked : op.awaits <;> simp [Op.request?, asked] at waits
    | _ => cases waits

/-- An inbox that an operation is at after a move is the one it was at or the one in the slot. -/
theorem NoteMove.within {session : Session} {op : Op} {move : Move Session Op Result}
    (moved : NoteMove session op move)
    (bound : ∀ number, session.bound = some number → number < session.inboxes.length) (number : Nat)
    (isAt : inboxOf move.progress = some number) : number < session.inboxes.length := by
  cases moved with
  | aside off kept blank comes => exact bound number (comes number isAt)
  | @works number' inbox inner innerMove purpose found acts =>
    have within := (List.getElem?_eq_some_iff.1 found).1
    cases innerMove with
    | go inbox' later =>
      obtain rfl := Option.some.inj isAt
      exact within
    | done inbox' answer => cases purpose <;> cases isAt

/-- The receive loops leave the notes alone. -/
theorem exists_of_mapInbox {session : Session} {number other : Nat} {event : Inbox.LoopEvent}
    {after : Inbox}
    (found : (session.mapInbox number fun inbox => inbox.onLoop event).inboxes[other]? = some after) :
    ∃ inbox, session.inboxes[other]? = some inbox ∧ after.cancelled = inbox.cancelled ∧
      ∀ kind, after.noted kind = inbox.noted kind := by
  unfold mapInbox at found
  split at found
  case h_1 inbox there =>
    have within := (List.getElem?_eq_some_iff.1 there).1
    by_cases same : other = number
    · subst same
      obtain ⟨loop, changed⟩ := inbox.exists_onLoop event
      simp only [putInbox, List.getElem?_set_self within, Option.some.injEq] at found
      subst found
      exact ⟨inbox, there, by rw [changed], fun kind => by rw [changed]; cases kind <;> rfl⟩
    · simp only [putInbox, List.getElem?_set_ne (Ne.symm same)] at found
      exact ⟨after, found, rfl, fun _ => rfl⟩
  case h_2 => exact ⟨after, found, rfl, fun _ => rfl⟩

/-! ## Callbacks that are accounted for -/

/-- Whether an operation still looks at the note of a callback on a closed inbox. -/
def Op.coversAt (kind : CallbackKind) (number : Nat) : Op → Bool
  | onInbox _ other inner => other = number && inner.covers kind
  | _ => false

namespace Hosted

/-- Why the client may have a callback of a kind. -/
inductive Accounts (hosted : Hosted) (kind : CallbackKind) : Prop
  /-- A removal was overtaken. -/
  | overtaken {member : Nat} (listed : (member, kind) ∈ hosted.overtaken)
  /-- Somebody's call is going to clear it. -/
  | clears {member : Nat} {op : Op} (held : hosted.run.members[member]? = some (.running op))
      (waits : op.callbackCall? = some (kind, none)) (pending : member ∉ hosted.effective)
  /-- Somebody's call has installed one and is to be answered. -/
  | installs {member : Nat} {op : Op} {callback : Callback}
      (held : hosted.run.members[member]? = some (.running op))
      (waits : op.callbackCall? = some (kind, some callback)) (effective : member ∈ hosted.effective)
  /-- Somebody is going to note one. -/
  | installed {member : Nat} {purpose : Purpose} {number : Nat}
      (held : hosted.run.members[member]? = some (.running (.onInbox purpose number (.installed kind))))
  /-- One is noted. -/
  | noted (number : Nat) {inbox : Inbox} (found : hosted.run.state.inboxes[number]? = some inbox)
      (noted : inbox.noted kind = true)

/-- The callbacks of a client are accounted for. -/
structure Accounted (identity : Identity) (hosted : Hosted) : Prop where
  guarded : Guarded identity hosted.run
  punctual : hosted.Punctual
  within : hosted.run.AllAt fun op => ∀ number, inboxOf (.running op) = some number →
    number < hosted.run.state.inboxes.length
  /-- Somebody looks at every note on a closed inbox. -/
  covered : ∀ kind number inbox, hosted.run.state.inboxes[number]? = some inbox →
    inbox.cancelled = true → inbox.noted kind = true →
      hosted.run.AnyAt fun op => op.coversAt kind number = true
  accounts : ∀ kind, hosted.callbacks kind ≠ none → hosted.Accounts kind

section

variable {identity : Identity} {hosted : Hosted}

theorem accounted_fresh (identity : Identity) (reports : Bool) (receiveTimeout : Nat) :
    Accounted identity { run := { state := fresh identity reports receiveTimeout } } where
  guarded := guarded_fresh identity reports receiveTimeout
  punctual := fun _ inside => by simp at inside
  within := fun _ _ held => by simp at held
  covered := fun _ _ _ found => by simp [fresh] at found
  accounts := fun _ has => absurd rfl has

theorem accounted_put (accounted : Accounted identity hosted) {member : Nat} {kind : CallbackKind}
    {callback : Option Callback} (waits : hosted.waiting? member = some (kind, callback)) :
    Accounted identity (hosted.put member kind callback) where
  guarded := accounted.guarded
  punctual := by
    intro other inside
    rcases List.mem_cons.1 inside with rfl | before
    · exact Option.isSome_of_mem waits
    · exact accounted.punctual other before
  within := accounted.within
  covered := accounted.covered
  accounts := by
    intro other has
    by_cases same : other = kind
    · subst same
      simp only [put, if_true] at has
      obtain ⟨callback, rfl⟩ := Option.ne_none_iff_exists'.1 has
      unfold waiting? at waits
      split at waits
      case h_1 op held => exact .installs held waits List.mem_cons_self
      case h_2 => cases waits
    · simp only [put, if_neg same] at has
      cases accounted.accounts other has with
      | overtaken listed => exact .overtaken listed
      | clears held clears pending =>
        refine .clears held clears fun inside => ?_
        rcases List.mem_cons.1 inside with rfl | before
        · rw [waiting?_of_running held, clears] at waits
          exact same (Prod.mk.inj (Option.some.inj waits)).1
        · exact pending before
      | installs held installs effective =>
        exact .installs held installs (List.mem_cons_of_mem _ effective)
      | installed held => exact .installed held
      | noted number found noted => exact .noted number found noted

theorem accounted_enter (accounted : Accounted identity hosted) (command : Command) :
    Accounted identity { hosted with run := hosted.run.enter (.begin command) [.begun command] } := by
  constructor
  case guarded => exact guarded_enter accounted.guarded command
  case punctual =>
    intro member inside
    have waits := accounted.punctual member inside
    unfold waiting? at waits ⊢
    split at waits
    case h_1 op held =>
      simp only [Crew.member_enter _ held]
      exact waits
    case h_2 => cases waits
  case within => exact Crew.allAt_enter accounted.within nofun
  case covered =>
    intro kind number inbox found cancelled noted
    exact Crew.anyAt_enter _ (accounted.covered kind number inbox found cancelled noted)
  case accounts =>
    intro kind has
    cases accounted.accounts kind has with
    | overtaken listed => exact .overtaken listed
    | clears held waits pending => exact .clears (Crew.member_enter _ held) waits pending
    | installs held waits effective => exact .installs (Crew.member_enter _ held) waits effective
    | installed held => exact .installed (Crew.member_enter _ held)
    | noted number found noted => exact .noted number found noted

theorem accounted_drift (accounted : Accounted identity hosted) (number : Nat)
    (event : Inbox.LoopEvent) :
    Accounted identity { hosted with
      run := hosted.run.drift (hosted.run.state.mapInbox number fun inbox => inbox.onLoop event) [] } := by
  have tends := tends_mapInbox hosted.run.state number event
  constructor
  case guarded => exact guarded_drift accounted.guarded tends
  case punctual => exact accounted.punctual
  case within =>
    intro member op held other isAt
    exact Nat.lt_of_lt_of_eq (accounted.within member op held other isAt) tends.length.symm
  case covered =>
    intro kind other inbox' found cancelled noted
    obtain ⟨inbox, before, quiet, notes⟩ := exists_of_mapInbox found
    rw [quiet] at cancelled
    rw [notes] at noted
    exact accounted.covered kind other inbox before cancelled noted
  case accounts =>
    intro kind has
    cases accounted.accounts kind has with
    | overtaken listed => exact .overtaken listed
    | clears held waits pending => exact .clears held waits pending
    | installs held waits effective => exact .installs held waits effective
    | installed held => exact .installed held
    | noted other found noted =>
      have inside := (List.getElem?_eq_some_iff.1 found).1
      obtain ⟨before, there, _, notes⟩ :=
        exists_of_mapInbox (List.getElem?_eq_getElem (Nat.lt_of_lt_of_eq inside tends.length.symm))
      obtain rfl := Option.some.inj (found.symm.trans there)
      exact .noted other (List.getElem?_eq_getElem _) ((notes kind).trans noted)

/-! ## Moves -/

section

variable {member : Nat} {op : Op} {move : Move Session Op Result} {notes : List Note}

theorem mem_effective_follow {other : Nat} :
    other ∈ (hosted.follow member move notes).effective ↔ other ∈ hosted.effective ∧ other ≠ member := by
  simp [follow, List.mem_filter]

/-- A note that was there is still there, or it was taken back by somebody who is about to clear the
callback or by a removal that was overtaken. -/
theorem accounts_of_noted (held : hosted.run.members[member]? = some (.running op))
    (moved : NoteMove hosted.run.state op move) {kind : CallbackKind}
    (has : hosted.callbacks kind ≠ none) {number : Nat} {inbox : Inbox}
    (found : hosted.run.state.inboxes[number]? = some inbox) (noted : inbox.noted kind = true) :
    (hosted.follow member move notes).Accounts kind := by
  have self : (hosted.follow member move notes).run.members[member]? = some move.progress :=
    Crew.member_follow_self held
  have within := (List.getElem?_eq_some_iff.1 found).1
  cases moved with
  | aside off kept blank comes => exact .noted number (kept number inbox found) noted
  | @works number' inbox' inner innerMove purpose found' acts =>
    have state : (hosted.follow member (hosted.run.state.ofInboxMove purpose number' innerMove)
        notes).run.state = hosted.run.state.putInbox number' innerMove.state :=
      state_ofInboxMove ..
    by_cases same : number' = number
    · subst same
      obtain rfl := Option.some.inj (found.symm.trans found')
      rcases acts.owes noted with stays | rfl | ⟨inbox', later, rfl, clears⟩
      · refine .noted number' ?_ stays
        rw [state]
        exact List.getElem?_set_self within
      · obtain ⟨callback, present⟩ := Option.ne_none_iff_exists'.1 has
        have listed : (member, kind) ∈ hosted.overtakes member := by simp [overtakes, held, present]
        exact .overtaken (List.mem_append_right _ listed)
      · refine .clears self (by simp [Op.callbackCall?, clears]) ?_
        rw [mem_effective_follow]
        exact fun inside => inside.2 rfl
    · refine .noted number ?_ noted
      rw [state]
      exact (List.getElem?_set_ne same).trans found

theorem accounts_follow (accounted : Accounted identity hosted)
    (held : hosted.run.members[member]? = some (.running op))
    (moved : NoteMove hosted.run.state op move)
    (ready : op.callbackCall? ≠ none → member ∈ hosted.effective) (kind : CallbackKind)
    (has : hosted.callbacks kind ≠ none) : (hosted.follow member move notes).Accounts kind := by
  have self : (hosted.follow member move notes).run.members[member]? = some move.progress :=
    Crew.member_follow_self held
  cases accounted.accounts kind has with
  | overtaken listed => exact .overtaken (List.mem_append_left _ listed)
  | @clears other _ held' waits pending =>
    have apart : other ≠ member := by
      rintro rfl
      obtain rfl := Progress.running.inj (Option.some.inj (held'.symm.trans held))
      exact pending (ready (by simp [waits]))
    refine .clears (Crew.member_follow_of_ne held apart held') waits ?_
    rw [mem_effective_follow]
    exact fun inside => pending inside.1
  | @installs other _ callback held' waits effective =>
    by_cases same : other = member
    · subst same
      obtain rfl := Progress.running.inj (Option.some.inj (held.symm.trans held'))
      cases moved with
      | aside off kept blank comes =>
        cases op with
        | onInbox purpose number inner => cases off
        | _ => cases waits
      | @works number inbox inner innerMove purpose found acts =>
        have asked : inner.awaits = some (.setCallback kind (some callback)) := by
          have request := request?_of_callbackCall? waits
          simpa [Op.request?] using request
        obtain rfl := acts.installs asked
        exact .installed self
    · exact .installs (Crew.member_follow_of_ne held same held') waits
        (mem_effective_follow.2 ⟨effective, same⟩)
  | @installed other purpose number held' =>
    by_cases same : other = member
    · subst same
      obtain rfl := Progress.running.inj (Option.some.inj (held'.symm.trans held))
      cases moved with
      | aside off kept blank comes => cases off
      | @works _ inbox _ innerMove _ found acts =>
        refine .noted number ?_ acts.notes
        rw [follow, Crew.state_follow, state_ofInboxMove]
        exact List.getElem?_set_self (List.getElem?_eq_some_iff.1 found).1
    · exact .installed (Crew.member_follow_of_ne held same held')
  | noted number found noted => exact accounts_of_noted held moved has found noted

/-- Somebody still looks at every note on a closed inbox. -/
theorem covered_follow (accounted : Accounted identity hosted)
    (held : hosted.run.members[member]? = some (.running op))
    (moved : NoteMove hosted.run.state op move) (kind : CallbackKind) (number : Nat) (inbox : Inbox)
    (found : move.state.inboxes[number]? = some inbox) (cancelled : inbox.cancelled = true)
    (noted : inbox.noted kind = true) :
    (hosted.run.follow member move notes).AnyAt fun op => op.coversAt kind number = true := by
  cases moved with
  | aside off kept blank comes =>
    rcases blank number inbox found with before | bare
    · refine Crew.anyAt_follow held (accounted.covered kind number inbox before cancelled noted) ?_
      intro covers
      cases op with
      | onInbox purpose number inner => cases off
      | _ => cases covers
    · rw [bare kind] at noted
      cases noted
  | @works number' inbox' inner innerMove purpose found' acts =>
    have within := (List.getElem?_eq_some_iff.1 found').1
    rw [state_ofInboxMove] at found
    by_cases same : number' = number
    · subst same
      obtain rfl := Option.some.inj ((List.getElem?_set_self within).symm.trans found)
      rcases acts.covers cancelled noted with ⟨cancelled, noted, careless⟩ | ⟨state, later, rfl, covers⟩
      · refine Crew.anyAt_follow held (accounted.covered kind number' inbox' found' cancelled noted) ?_
        intro covers
        simp [Op.coversAt, careless] at covers
      · refine Crew.anyAt_follow_self held rfl ?_
        simp [Op.coversAt, covers]
    · have before := (List.getElem?_set_ne same).symm.trans found
      refine Crew.anyAt_follow held (accounted.covered kind number inbox before cancelled noted) ?_
      intro covers
      simp [Op.coversAt, same] at covers

theorem accounted_follow (accounted : Accounted identity hosted)
    (held : hosted.run.members[member]? = some (.running op)) {told : List Note}
    (moved : Moves hosted.run.state op told move)
    (ready : op.callbackCall? ≠ none →
      member ∈ hosted.effective ∧ move = hosted.run.state.resume "" (.done (.ok ())) op) :
    Accounted identity (hosted.follow member move notes) := by
  have within := accounted.within member op held
  have noteMove := noteMove_of_moves moved within fun waits => (ready waits).2
  constructor
  case guarded =>
    exact guarded_follow accounted.guarded held
      (slotMove_of_moves moved (accounted.guarded.plain member op held))
  case punctual =>
    intro other inside
    obtain ⟨before, apart⟩ := mem_effective_follow.1 inside
    have waits := accounted.punctual other before
    unfold waiting? at waits ⊢
    split at waits
    case h_1 op' held' =>
      simp only [follow, Crew.member_follow_of_ne held apart held']
      exact waits
    case h_2 => cases waits
  case within =>
    have longer : hosted.run.state.inboxes.length ≤ move.state.inboxes.length :=
      (evolves_of_moves moved).inboxes
    have bound : ∀ number, hosted.run.state.bound = some number →
        number < hosted.run.state.inboxes.length := by
      intro number inSlot
      obtain ⟨inbox, found, _⟩ := accounted.guarded.bound number inSlot
      exact (List.getElem?_eq_some_iff.1 found).1
    refine Crew.allAt_follow held accounted.within ?_ ?_
    · exact fun _ inside number isAt => Nat.lt_of_lt_of_le (inside number isAt) longer
    · intro later comes number isAt
      exact Nat.lt_of_lt_of_le (noteMove.within bound number (comes ▸ isAt)) longer
  case covered => exact covered_follow accounted held noteMove
  case accounts => exact accounts_follow accounted held noteMove fun waits => (ready waits).1

end

theorem accounted_act (accounted : Accounted identity hosted) (event : Event) :
    Accounted identity (act hosted event) := by
  have happens := happens_act accounted.punctual event
  generalize act hosted event = after at happens ⊢
  cases happens with
  | stays => exact accounted
  | takes waits => exact accounted_put accounted waits
  | begins command => exact accounted_enter accounted command
  | moves held moved ready => exact accounted_follow accounted held moved ready
  | loops number event => exact accounted_drift accounted number event

theorem accounted_onward (accounted : Accounted identity hosted) (events : List Event) :
    Accounted identity (onward hosted events) := by
  induction events generalizing hosted with
  | nil => exact accounted
  | cons event events ih => exact ih (accounted_act accounted event)

/-- Once all operations on a closed session are over, a callback is there only because a removal was
overtaken. -/
theorem Accounted.overtaken (accounted : Accounted identity hosted)
    (quiet : ∀ member, member < hosted.run.members.length → Ended hosted.run member)
    (inactive : hosted.run.state.active = false) {kind : CallbackKind}
    (has : hosted.callbacks kind ≠ none) : ∃ member, (member, kind) ∈ hosted.overtaken := by
  have idle : ∀ {member : Nat} {op : Op}, hosted.run.members[member]? ≠ some (.running op) := by
    intro member op held
    exact not_anyAt quiet (fun _ => True) ⟨member, op, held, trivial⟩
  cases accounted.accounts kind has with
  | overtaken listed => exact ⟨_, listed⟩
  | clears held | installs held | installed held => exact absurd held idle
  | @noted number inbox found noted =>
    have closed : ¬ hosted.run.state.IsOpen number := by
      rw [accounted.guarded.settled quiet, inactive]
      exact fun live => nomatch live.1
    have cancelled : inbox.cancelled = true := by
      rw [← Bool.not_eq_false]
      exact fun live => closed ⟨inbox, found, live⟩
    exact absurd (accounted.covered kind number inbox found cancelled noted) (not_anyAt quiet _)

end

end Hosted

end Session

end DeviceGateway
