/-
# How far a teardown has come

The notes that belong to a teardown, taken from the story of an operation, are a beginning of one fixed
course: the session is turned inactive, its inboxes are closed, the client is closed, and rejected
credentials are reported.  How much of the course is there says at which position the operation is, and
every move of an operation carries its story on along the course.
-/

import DeviceGateway.Proofs.Session.Ending

namespace DeviceGateway

/-! ## Closing an inbox -/

@[simp]
theorem Answer.isOk_and (first second : Answer Unit) :
    (first.and second).isOk = (first.isOk && second.isOk) := by
  cases first <;> rfl

namespace Inbox

/-- What the operation that closes an inbox has been answered so far. -/
def Op.closing? : Op → Option (Answer Unit)
  | .cancel => some (.ok ())
  | .clear _ result | .clearing _ result => some result
  | _ => none

/-- Whether closing an inbox goes on, or ends, with a result. -/
def ClosesWith (result : Answer Unit) : Move Inbox Op (Answer Unit) → Prop
  | .go _ op => op.closing? = some result
  | .done _ answer => answer = result

/-- An inbox asks its client for nothing but callbacks. -/
theorem Op.awaits_eq_some {op : Op} {call : ClientCall} (waits : op.awaits = some call) :
    ∃ kind callback, call = .setCallback kind callback := by
  cases op <;> simp [Op.awaits] at waits <;> exact ⟨_, _, waits.symm⟩

theorem closesWith_afterClear (inbox : Inbox) (kind : CallbackKind) (result : Answer Unit) :
    ClosesWith result (inbox.afterClear kind result) := by
  cases kind <;> rfl

theorem closesWith_step (inbox : Inbox) {op : Op} {result : Answer Unit}
    (closes : op.closing? = some result) (free : op.awaits = none) :
    ClosesWith result (inbox.step op) := by
  cases op with
  | cancel => exact closes
  | clear kind result' =>
    obtain rfl := Option.some.inj closes
    simp only [step]
    split
    case isTrue => rfl
    case isFalse => exact closesWith_afterClear inbox kind _
  | clearing kind result' => cases free
  | _ => cases closes

theorem closesWith_resume (inbox : Inbox) {op : Op} {result : Answer Unit} {call : ClientCall}
    (closes : op.closing? = some result) (waits : op.awaits = some call) (answer : Answer Unit) :
    ClosesWith (result.and answer) (inbox.resume answer op) := by
  cases op with
  | clearing kind result' =>
    obtain rfl := Option.some.inj closes
    exact closesWith_afterClear inbox kind _
  | cancel | clear kind result' => cases waits
  | _ => cases closes

end Inbox

/-! ## The course of a teardown -/

/-- Whether a command sends messages. -/
def Session.Command.isSend : Session.Command → Bool
  | .send _ | .sendBatch _ => true
  | _ => false

/-- Whether a call sends messages. -/
def ClientCall.isSend : ClientCall → Bool
  | .send _ | .sendBatch _ => true
  | _ => false

theorem ClientCall.ne_close_of_isSend {call : ClientCall} (sends : call.isSend = true) :
    call ≠ .close := by
  rintro rfl
  cases sends

/-- The faults by which the hub rejects credentials. -/
theorem Fault.isUnauthorized_iff (fault : Fault) :
    fault.isUnauthorized = true ↔
      (∃ identity reason, fault = .unauthorized identity reason) ∨
        ∃ reason, fault = .requestFailed 401 reason := by
  cases fault <;> simp [isUnauthorized]

namespace Session

namespace Note

/-- Whether a note belongs to a teardown. -/
def ofTeardown : Note → Bool
  | turned | asked (.call .close) | answered .close _ | asked (.report _ _) => true
  | _ => false

/-- Whether a note says that the session was turned inactive. -/
def isTurn : Note → Bool
  | turned => true
  | _ => false

/-- Whether a note says that the client was asked to close. -/
def isClosing : Note → Bool
  | asked (.call .close) => true
  | _ => false

/-- Whether a note says that something was reported. -/
def isReport : Note → Bool
  | asked (.report _ _) => true
  | _ => false

theorem ofTeardown_of_isClosing {note : Note} (closing : note.isClosing = true) :
    note.ofTeardown = true := by
  unfold isClosing at closing
  split at closing
  case h_1 => rfl
  case h_2 => cases closing

theorem ofTeardown_of_isReport {note : Note} (reports : note.isReport = true) :
    note.ofTeardown = true := by
  unfold isReport at reports
  split at reports
  case h_1 => rfl
  case h_2 => cases reports

/-- Whether a note says that a call was answered with a fault. -/
def isFault : Note → Bool
  | answered _ answer => !answer.outcome.isOk
  | _ => false

end Note

/-- What belongs to a teardown in a story. -/
def teardownOf (story : List Note) : List Note := story.filter Note.ofTeardown

/-- The course of a whole teardown, without its report. -/
def course (answer : ClientAnswer) : List Note :=
  [.turned, .asked (.call .close), .answered .close answer]

/-- The report that the hub rejected the credentials. -/
def expiry : Note := .asked (.report .disconnected .expiredCredential)

/-- Whether the story of an operation gives it a cause for a teardown, and whether the calls made
so far for the sake of its owner have gone as a result says. -/
def Cause.Suits (command : Command) (story : List Note) (result : Answer Unit) : Cause → Prop
  | .asked => command = .close ∧ result.isOk = !story.any Note.isFault
  | .rejected fault =>
    command.isSend = true ∧ fault.isUnauthorized = true ∧ ∃ call answer,
      call.isSend = true ∧ answer.outcome = .error fault ∧ .answered call answer ∈ story

/-- Whether a story suits an operation that deals with an inbox; `ends` is what closing the inbox may
still end with.  While a session is torn down the inbox is one that exists, so that its answer is not
lost. -/
def Purpose.Suits (session : Session) (command : Command) (story : List Note) (number : Nat)
    (ends : Answer Unit → Prop) : Purpose → Prop
  | .teardown cause =>
    teardownOf story = [.turned] ∧ number < session.inboxes.length ∧
      ∃ result, ends result ∧ cause.Suits command story result
  | _ => teardownOf story = [] ∧ command ≠ .close

/-- What the story of an operation says at each of its positions. -/
def Suits (session : Session) (command : Command) (story : List Note) : Progress Op Result → Prop
  | .running (.begin first) => first = command ∧ story = [.begun command]
  | .running (.sending call) =>
    teardownOf story = [] ∧ command.isSend = true ∧ call.isSend = true
  | .running (.passing call) =>
    teardownOf story = [] ∧ command ≠ .close ∧ call ≠ .close ∧ call.isSend = false
  | .running (.claim cause) => teardownOf story = [] ∧ cause.Suits command story (.ok ())
  | .running (.detach cause) => teardownOf story = [.turned] ∧ cause.Suits command story (.ok ())
  | .running (.onInbox purpose number op) =>
    purpose.Suits session command story number (op.closing? = some ·)
  | .running (.closingClient cause result) =>
    teardownOf story = [.turned, .asked (.call .close)] ∧ cause.Suits command story result
  | .running (.reporting fault) =>
    session.reports = true ∧ (Cause.rejected fault).Suits command story (.ok ()) ∧
      ∃ answer, teardownOf story = course answer ++ [expiry]
  | .running _ => teardownOf story = [] ∧ command ≠ .close
  | .ended result =>
    teardownOf story = [] ∧ (command = .close → result = .closed true) ∨
      ∃ answer,
        teardownOf story = course answer ∧ command = .close ∧
            result = .closed (!story.any Note.isFault) ∨
          teardownOf story = course answer ++ (if session.reports then [expiry] else []) ∧
            ∃ fault, (Cause.rejected fault).Suits command story (.ok ())

/-- The story of an operation fits its position: it begins with one command, and with that it suits
the position. -/
def Fits (session : Session) (story : List Note) (progress : Progress Op Result) : Prop :=
  ∃ command, (∀ other, .begun other ∈ story ↔ other = command) ∧
    Suits session command story progress

/-! ## How the notes of a move count -/

@[simp]
theorem teardownOf_append (first second : List Note) :
    teardownOf (first ++ second) = teardownOf first ++ teardownOf second :=
  List.filter_append ..

/-- How far a teardown has come after a few more notes. -/
theorem teardownOf_extend {story notes before after : List Note} (first : teardownOf story = before)
    (whole : before ++ teardownOf notes = after) : teardownOf (story ++ notes) = after := by
  rw [teardownOf_append, first]
  exact whole

/-- A move that leaves the flag as it was is noted by what it asks or by its end. -/
theorem notesOf_go {before state : Session} (kept : state.active = before.active) (op : Op) :
    before.notesOf (.go state op) = (op.request?.map Note.asked).toList := by
  simp [notesOf, kept]

theorem notesOf_done {before state : Session} (kept : state.active = before.active)
    (result : Result) : before.notesOf (.done state result) = [.ended result] := by
  simp [notesOf, kept]

/-- A call that does not close the client belongs to no teardown, nor does its answer. -/
theorem teardownOf_asked {call : ClientCall} (apart : call ≠ .close) :
    teardownOf [.asked (.call call)] = [] := by
  cases call <;> first | rfl | exact absurd rfl apart

theorem teardownOf_answered {call : ClientCall} (apart : call ≠ .close) (answer : ClientAnswer) :
    teardownOf [.answered call answer] = [] := by
  cases call <;> first | rfl | exact absurd rfl apart

/-- What an inbox asks belongs to no teardown: its calls are about callbacks. -/
theorem teardownOf_onInbox (purpose : Purpose) (number : Nat) (op : Inbox.Op) :
    teardownOf ((Op.onInbox purpose number op).request?.map Note.asked).toList = [] := by
  simp only [Op.request?]
  cases waits : op.awaits with
  | none => rfl
  | some call =>
    obtain ⟨kind, callback, rfl⟩ := Inbox.Op.awaits_eq_some waits
    rfl

/-- No move begins an operation. -/
theorem begun_not_mem_notesOf (session : Session) (move : Move Session Op Result)
    (command : Command) : .begun command ∉ session.notesOf move := by
  intro member
  unfold notesOf at member
  rw [List.mem_append] at member
  rcases member with turned | later
  · split at turned <;> simp at turned
  · cases move with
    | go state op => simp at later
    | done state result => simp at later

/-- Nor does an answer before it. -/
theorem begun_not_mem_of_moves {session : Session} {op : Op} {told : List Note}
    {move : Move Session Op Result} (moved : Moves session op told move) (command : Command) :
    .begun command ∉ told ++ session.notesOf move := by
  intro member
  rcases List.mem_append.1 member with before | after
  · cases moved <;> simp at before
  · exact begun_not_mem_notesOf session move command after

/-! ## Causes -/

variable {session : Session} {command : Command} {story notes : List Note} {result : Answer Unit}
  {cause : Cause}

/-- A cause stays one while nothing fails. -/
theorem Cause.Suits.append (suits : cause.Suits command story result)
    (quiet : notes.any Note.isFault = false) : cause.Suits command (story ++ notes) result := by
  cases cause with
  | asked =>
    refine ⟨suits.1, ?_⟩
    rw [List.any_append, quiet, Bool.or_false]
    exact suits.2
  | rejected fault =>
    obtain ⟨sends, rejects, call, answer, sending, failed, told⟩ := suits
    exact ⟨sends, rejects, call, answer, sending, failed, List.mem_append_left _ told⟩

/-- The result of a teardown takes in every answer. -/
theorem Cause.Suits.answered (suits : cause.Suits command story result) (call : ClientCall)
    (answer : ClientAnswer) :
    cause.Suits command (story ++ [.answered call answer]) (result.and answer.outcome) := by
  cases cause with
  | asked =>
    refine ⟨suits.1, ?_⟩
    rw [Answer.isOk_and, suits.2]
    simp [Note.isFault]
  | rejected fault =>
    obtain ⟨sends, rejects, call, answer, sending, failed, told⟩ := suits
    exact ⟨sends, rejects, call, answer, sending, failed, List.mem_append_left _ told⟩

/-! ## What the moves of an operation keep -/

/-- An operation without a part in the teardown may end as it likes, unless it closes. -/
theorem suits_done {result : Result} (plain : teardownOf story = []) (other : command ≠ .close) :
    Suits session command (story ++ session.notesOf (.done session result)) (.ended result) := by
  rw [notesOf_done rfl]
  exact .inl ⟨teardownOf_extend plain rfl, fun same => absurd same other⟩

/-- A message without a form that the hub understands ends an operation; otherwise the position is
one that suits the call. -/
theorem suits_forward {call : Answer ClientCall} {position : ClientCall → Op}
    (plain : teardownOf story = []) (other : command ≠ .close)
    (goes : ∀ made, call = .ok made →
      Suits session command (story ++ ((position made).request?.map Note.asked).toList)
        (.running (position made))) :
    Suits session command (story ++ session.notesOf (session.forward call position))
      (session.forward call position).progress := by
  cases call with
  | ok made =>
    have kept : session.active = session.active := rfl
    have suits := goes made rfl
    rwa [← notesOf_go kept] at suits
  | error fault => exact suits_done plain other

/-- What is made of a message is a call that sends it. -/
theorem isSend_of_map_eq_ok {α : Type} {answer : Answer α} {call : α → ClientCall}
    {made : ClientCall} (sends : ∀ value, (call value).isSend = true)
    (same : answer.map call = .ok made) : made.isSend = true := by
  cases answer with
  | ok value =>
    obtain rfl := Except.ok.inj same
    exact sends value
  | error fault => cases same

/-- Where a command leads in an active session. -/
theorem suits_accept (session : Session) (command : Command) :
    Suits session command ([.begun command] ++ session.notesOf (session.accept command))
      (session.accept command).progress := by
  cases command with
  | send message =>
    apply suits_forward rfl Command.noConfusion
    intro made same
    have sends := isSend_of_map_eq_ok (fun _ => rfl) same
    have asked := teardownOf_asked (ClientCall.ne_close_of_isSend sends)
    exact ⟨teardownOf_extend rfl asked, rfl, sends⟩
  | sendBatch messages =>
    apply suits_forward rfl Command.noConfusion
    intro made same
    have sends := isSend_of_map_eq_ok (fun _ => rfl) same
    have asked := teardownOf_asked (ClientCall.ne_close_of_isSend sends)
    exact ⟨teardownOf_extend rfl asked, rfl, sends⟩
  | updateReported patch =>
    apply suits_forward rfl Command.noConfusion
    intro made same
    obtain ⟨patch, rfl⟩ : ∃ patch, made = .updateReported patch := by
      cases converted : PropertySet.ofMessage patch with
      | ok patch =>
        rw [converted] at same
        exact ⟨patch, (Except.ok.inj same).symm⟩
      | error fault =>
        rw [converted] at same
        cases same
    exact ⟨teardownOf_extend rfl rfl, Command.noConfusion, ClientCall.noConfusion, rfl⟩
  | close =>
    simp only [accept, notesOf_go, Move.progress_go]
    exact ⟨rfl, rfl, rfl⟩
  | sendFeedback messageId status =>
    simp only [accept, notesOf_go, Move.progress_go]
    exact ⟨rfl, Command.noConfusion, ClientCall.noConfusion, rfl⟩
  | getTwin | bind _ | install _ | remove _ | startListening =>
    simp only [accept, notesOf_go, Move.progress_go]
    exact ⟨rfl, Command.noConfusion⟩

/-- Where a command leads. -/
theorem suits_start (session : Session) (command : Command) :
    Suits session command ([.begun command] ++ session.notesOf (session.start command))
      (session.start command).progress := by
  unfold start
  split
  case h_1 => exact suits_accept session .close
  case h_2 messageId status =>
    split
    case isTrue => exact suits_done rfl nofun
    case isFalse =>
      split
      case isTrue => exact suits_accept session _
      case isFalse => exact suits_done rfl nofun
  case h_3 other _ =>
    split
    case isTrue => exact suits_accept session command
    case isFalse => exact suits_done rfl other

/-- Where an operation goes once the session is torn down. -/
theorem suits_tornDown {answer : ClientAnswer} (whole : teardownOf story = course answer)
    (suits : cause.Suits command story result) :
    Suits session command (story ++ session.notesOf (session.tornDown result.isOk cause))
      (session.tornDown result.isOk cause).progress := by
  cases cause with
  | asked =>
    simp only [tornDown, notesOf_done, Move.progress_done]
    refine .inr ⟨answer, .inl ⟨teardownOf_extend whole rfl, suits.1, ?_⟩⟩
    rw [suits.2]
    simp [Note.isFault]
  | rejected fault =>
    simp only [tornDown]
    split
    case isTrue reports =>
      simp only [notesOf_go, Move.progress_go]
      exact ⟨reports, suits.append rfl, answer, teardownOf_extend whole rfl⟩
    case isFalse silent =>
      simp only [notesOf_done, Move.progress_done]
      refine .inr ⟨answer, .inr ⟨teardownOf_extend whole ?_, fault, suits.append rfl⟩⟩
      rw [if_neg silent]
      rfl

/-- Where an operation goes once an inbox has done its part. -/
theorem suits_afterInbox {purpose : Purpose} (number : Nat) {before : Session}
    {answer : Answer Unit} (kept : session.active = before.active)
    (suits : purpose.Suits session command story number (· = answer)) :
    Suits session command (story ++ before.notesOf (session.afterInbox answer purpose))
      (session.afterInbox answer purpose).progress := by
  cases purpose with
  | teardown cause =>
    obtain ⟨turned, within, result, rfl, suits⟩ := suits
    simp only [afterInbox, notesOf_go kept, Move.progress_go]
    exact ⟨teardownOf_extend turned rfl, suits.append rfl⟩
  | replacement =>
    simp only [afterInbox, notesOf_go kept, Move.progress_go]
    exact ⟨teardownOf_extend suits.1 rfl, suits.2⟩
  | request | orphan =>
    simp only [afterInbox, notesOf_done kept, Move.progress_done]
    exact .inl ⟨teardownOf_extend suits.1 rfl, fun same => absurd same suits.2⟩

/-- What an inbox's move means for the story of an operation. -/
theorem suits_ofInboxMove {purpose : Purpose} {number : Nat}
    {move : Move Inbox Inbox.Op (Answer Unit)}
    (suits : purpose.Suits session command story number (Inbox.ClosesWith · move)) :
    Suits (session.putInbox number move.state) command
      (story ++ session.notesOf (session.ofInboxMove purpose number move))
      (session.ofInboxMove purpose number move).progress := by
  cases move with
  | done inbox answer =>
    apply suits_afterInbox number rfl
    cases purpose with
    | teardown cause =>
      obtain ⟨turned, within, result, rfl, suits⟩ := suits
      exact ⟨turned, by simpa [putInbox] using within, answer, rfl, suits⟩
    | request | replacement | orphan => exact suits
  | go inbox op =>
    have plain := teardownOf_onInbox purpose number op
    simp only [ofInboxMove, notesOf_go (active_putInbox ..), Move.progress_go]
    cases purpose with
    | teardown cause =>
      obtain ⟨turned, within, result, closes, suits⟩ := suits
      refine ⟨?_, by simpa [putInbox] using within, result, closes, suits.append ?_⟩
      · rw [teardownOf_append, turned, plain]
        rfl
      · cases waits : op.awaits <;> simp [Op.request?, waits, Note.isFault]
    | request | replacement | orphan =>
      refine ⟨?_, suits.2⟩
      rw [teardownOf_append, suits.1, plain]
      rfl

/-- The step of an operation that waits for nothing keeps its story fitting. -/
theorem suits_step {op : Op} (bound : ∀ number, session.bound = some number →
      number < session.inboxes.length) (free : op.request? = none)
    (suits : Suits session command story (.running op)) :
    Suits (session.step op).state command (story ++ session.notesOf (session.step op))
      (session.step op).progress := by
  cases op with
  | begin first =>
    obtain ⟨rfl, rfl⟩ := suits
    simp only [step, state_start]
    exact suits_start session first
  | lookup op =>
    simp only [step]
    split
    case h_1 number _ =>
      have plain := teardownOf_onInbox .request number op
      simp only [notesOf_go, Move.progress_go, Move.state_go]
      refine ⟨?_, suits.2⟩
      rw [teardownOf_append, suits.1, plain]
      rfl
    case h_2 => exact suits_done suits.1 suits.2
  | onInbox purpose number op =>
    have idle : op.awaits = none := by simpa [Op.request?] using free
    simp only [step]
    split
    case h_1 inbox _ =>
      rw [state_ofInboxMove]
      apply suits_ofInboxMove
      cases purpose with
      | teardown cause =>
        obtain ⟨turned, within, result, closes, suits⟩ := suits
        exact ⟨turned, within, result, Inbox.closesWith_step inbox closes idle, suits⟩
      | request | replacement | orphan => exact suits
    case h_2 missing =>
      rw [state_afterInbox]
      apply suits_afterInbox number rfl
      cases purpose with
      | teardown cause =>
        -- An inbox that is closed for a teardown was bound, and so it exists.
        have beyond := List.getElem?_eq_none_iff.1 missing
        exact absurd suits.2.1 (Nat.not_lt.2 beyond)
      | request | replacement | orphan => exact suits
  | claim cause =>
    simp only [step]
    split
    case isTrue active =>
      simp only [notesOf, active, Move.state_go, Move.progress_go]
      exact ⟨teardownOf_extend suits.1 rfl, suits.2.append rfl⟩
    case isFalse =>
      cases cause with
      | asked =>
        simp only [notesOf_done, Move.progress_done]
        exact .inl ⟨teardownOf_extend suits.1 rfl, fun _ => rfl⟩
      | rejected fault =>
        apply suits_done suits.1
        rintro rfl
        cases suits.2.1
  | detach cause =>
    simp only [step]
    split
    case h_1 number found =>
      simp only [notesOf_go, Move.progress_go, Move.state_go]
      exact ⟨teardownOf_extend suits.1 rfl, bound number found, .ok (), rfl, suits.2.append rfl⟩
    case h_2 =>
      simp only [notesOf_go, Move.progress_go, Move.state_go]
      exact ⟨teardownOf_extend suits.1 rfl, suits.2.append rfl⟩
  | replace listener =>
    simp only [step]
    split
    all_goals
      simp only [notesOf_go, Move.progress_go, Move.state_go]
      exact ⟨teardownOf_extend suits.1 rfl, suits.2⟩
  | confirm =>
    simp only [step]
    split
    case isTrue => exact suits_done suits.1 suits.2
    case isFalse =>
      simp only [notesOf_go, Move.progress_go, Move.state_go]
      exact ⟨teardownOf_extend suits.1 rfl, suits.2⟩
  | withdraw =>
    simp only [step]
    split
    case h_1 =>
      simp only [notesOf_go, Move.progress_go, Move.state_go]
      exact ⟨teardownOf_extend suits.1 rfl, suits.2⟩
    case h_2 => exact suits_done suits.1 suits.2
  | fetching | sending call | passing call | closingClient cause inbox | reporting fault =>
    cases free

/-- The answer of the client keeps the story of an operation fitting. -/
theorem suits_resume {op : Op} {call : ClientCall} (stamp : String) (answer : ClientAnswer)
    (waits : op.request? = some (.call call)) (admitted : call.admits answer = true)
    (suits : Suits session command story (.running op)) :
    Suits (session.resume stamp answer op).state command
      (story ++ [.answered call answer] ++ session.notesOf (session.resume stamp answer op))
      (session.resume stamp answer op).progress := by
  cases op with
  | fetching =>
    obtain rfl := Request.call.inj (Option.some.inj waits)
    have plain : teardownOf (story ++ [.answered .getTwin answer]) = [] :=
      teardownOf_extend suits.1 rfl
    cases answer with
    | twin answer => exact suits_done plain suits.2
    | done answer | received answer => cases admitted
  | passing call =>
    obtain rfl := Request.call.inj (Option.some.inj waits)
    obtain ⟨plain, other, apart, _⟩ := suits
    exact suits_done (teardownOf_extend plain (teardownOf_answered apart answer)) other
  | sending call =>
    obtain rfl := Request.call.inj (Option.some.inj waits)
    obtain ⟨plain, sends, sending⟩ := suits
    have apart := ClientCall.ne_close_of_isSend sending
    have plain : teardownOf (story ++ [.answered call answer]) = [] :=
      teardownOf_extend plain (teardownOf_answered apart answer)
    have other : command ≠ .close := by
      rintro rfl
      cases sends
    simp only [resume]
    split
    case h_1 => exact suits_done plain other
    case h_2 fault failed =>
      split
      case isTrue rejects =>
        simp only [notesOf_go, Move.progress_go, Move.state_go]
        refine ⟨teardownOf_extend plain rfl, sends, rejects, call, answer, sending, failed, ?_⟩
        simp
      case isFalse => exact suits_done plain other
  | onInbox purpose number op =>
    have asked : op.awaits = some call := by
      cases found : op.awaits with
      | none => simp [Op.request?, found] at waits
      | some call' => simpa [Op.request?, found] using waits
    obtain ⟨kind, callback, rfl⟩ := Inbox.Op.awaits_eq_some asked
    simp only [resume]
    split
    case h_1 inbox _ =>
      rw [state_ofInboxMove]
      apply suits_ofInboxMove
      cases purpose with
      | teardown cause =>
        obtain ⟨turned, within, result, closes, suits⟩ := suits
        exact ⟨teardownOf_extend turned rfl, within, _,
          Inbox.closesWith_resume inbox closes asked answer.outcome, suits.answered _ answer⟩
      | request | replacement | orphan => exact ⟨teardownOf_extend suits.1 rfl, suits.2⟩
    case h_2 missing =>
      rw [state_afterInbox]
      apply suits_afterInbox number rfl
      cases purpose with
      | teardown cause =>
        have beyond := List.getElem?_eq_none_iff.1 missing
        exact absurd suits.2.1 (Nat.not_lt.2 beyond)
      | request | replacement | orphan => exact ⟨teardownOf_extend suits.1 rfl, suits.2⟩
  | closingClient cause inbox =>
    obtain rfl := Request.call.inj (Option.some.inj waits)
    simp only [resume, state_tornDown]
    exact suits_tornDown (teardownOf_extend suits.1 rfl) (suits.2.answered .close answer)
  | begin _ | lookup _ | claim _ | detach _ | reporting _ | replace _ | confirm | withdraw =>
    cases waits

/-- That its report was heard keeps the story of an operation fitting. -/
theorem suits_reported {op : Op} {status : ConnectionStatus} {reason : StatusReason}
    (waits : op.request? = some (.report status reason))
    (suits : Suits session command story (.running op)) :
    Suits (session.reported op).state command (story ++ session.notesOf (session.reported op))
      (session.reported op).progress := by
  cases op with
  | reporting fault =>
    obtain ⟨reports, suits, answer, whole⟩ := suits
    simp only [reported, notesOf_done, Move.state_done, Move.progress_done]
    refine .inr ⟨answer, .inr ⟨teardownOf_extend whole ?_, fault, suits.append rfl⟩⟩
    rw [if_pos reports]
    rfl
  | onInbox purpose number op =>
    cases found : op.awaits <;> simp [Op.request?, found] at waits
  | _ => cases waits

/-- Every move of an operation keeps its story fitting. -/
theorem fits_of_moves {op : Op} {told : List Note} {move : Move Session Op Result}
    (bound : ∀ number, session.bound = some number → number < session.inboxes.length)
    (moved : Moves session op told move) (fits : Fits session story (.running op)) :
    Fits move.state (story ++ (told ++ session.notesOf move)) move.progress := by
  obtain ⟨command, begun, suits⟩ := fits
  refine ⟨command, ?_, ?_⟩
  · intro other
    rw [List.mem_append, begun, or_iff_left (begun_not_mem_of_moves moved other)]
  · rw [← List.append_assoc]
    cases moved with
    | step free =>
      rw [List.append_nil]
      exact suits_step bound free suits
    | answer stamp waits admitted => exact suits_resume stamp _ waits admitted suits
    | hearing waits =>
      rw [List.append_nil]
      exact suits_reported waits suits

/-- What other operations do to the session does not matter to a story. -/
theorem Suits.evolves {after : Session} {progress : Progress Op Result}
    (suits : Suits session command story progress) (evolves : Evolves session after) :
    Suits after command story progress := by
  cases progress with
  | ended result =>
    simp only [Suits, evolves.reports]
    exact suits
  | running op =>
    cases op with
    | onInbox purpose number op =>
      cases purpose with
      | teardown cause =>
        exact ⟨suits.1, Nat.lt_of_lt_of_le suits.2.1 evolves.inboxes, suits.2.2⟩
      | request | replacement | orphan => exact suits
    | reporting fault => exact ⟨evolves.reports.trans suits.1, suits.2⟩
    | _ => exact suits

theorem Fits.evolves {after : Session} {progress : Progress Op Result}
    (fits : Fits session story progress) (evolves : Evolves session after) :
    Fits after story progress := by
  obtain ⟨command, begun, suits⟩ := fits
  exact ⟨command, begun, suits.evolves evolves⟩

end Session

end DeviceGateway
