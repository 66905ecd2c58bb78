/-
# Operations that fail before the network

A session refuses what cannot succeed before it asks its client for anything: feedback on a message
without a name, any operation once it is closed, an operation of the inbox when none is bound, and a
message that the hub would not understand.  Such an operation leaves no trace: the session is the same,
nothing was asked and nothing was reported.

The one operation that looks twice is that of an inbox, which others may overtake between its two looks.
What is said here therefore holds for the operation alone, and among others for as long as the session
would refuse it.
-/

import DeviceGateway.Proofs.Session.Stories

namespace DeviceGateway

/-! ## Messages that the hub would not understand -/

namespace HubMessage

variable {message : Message} {messages earlier later : List Message} {hub : HubMessage}
  {hubs : List HubMessage} {fault : Fault} {raw : String}

/-- The time of enqueueing of a message is a text that is no time stamp. -/
def IsMistimed (message : Message) (raw : String) : Prop :=
  message.system.get? SystemProperty.enqueuedTime = some raw ∧ Time.Timestamp.parse? raw = none

theorem ofMessage_eq_error_iff :
    ofMessage message = .error fault ↔ ∃ raw, IsMistimed message raw ∧ fault = enqueuedTimeFault raw := by
  unfold ofMessage enqueuedTimeOf IsMistimed
  cases given : message.system.get? SystemProperty.enqueuedTime with
  | none => simp
  | some text => cases read : Time.Timestamp.parse? text <;> simp [read, eq_comm]

theorem ofMessage_of_mistimed (mistimed : IsMistimed message raw) :
    ofMessage message = .error (enqueuedTimeFault raw) :=
  ofMessage_eq_error_iff.2 ⟨raw, mistimed, rfl⟩

theorem exists_ofMessage (timely : ∀ raw, ¬ IsMistimed message raw) :
    ∃ hub, ofMessage message = .ok hub := by
  cases converted : ofMessage message with
  | ok hub => exact ⟨hub, rfl⟩
  | error fault =>
    obtain ⟨raw, mistimed, _⟩ := ofMessage_eq_error_iff.1 converted
    exact absurd mistimed (timely raw)

/-- The first message that cannot be converted says how a batch fails. -/
theorem ofMessages_of_mistimed (timely : ∀ first ∈ earlier, ∀ raw, ¬ IsMistimed first raw)
    (mistimed : IsMistimed message raw) :
    ofMessages (earlier ++ message :: later) = .error (enqueuedTimeFault raw) := by
  induction earlier with
  | nil => simp only [List.nil_append, ofMessages, ofMessage_of_mistimed mistimed]
  | cons first earlier ih =>
    obtain ⟨hub, converted⟩ := exists_ofMessage (timely first List.mem_cons_self)
    have rest := ih fun other member => timely other (List.mem_cons_of_mem first member)
    simp only [List.cons_append, ofMessages, converted, rest]

/-- A batch is converted message by message, or there is a first message that cannot be. -/
theorem ofMessages_cases (messages : List Message) :
    (∃ hubs, ofMessages messages = .ok hubs ∧
      List.Forall₂ (fun message hub => ofMessage message = .ok hub) messages hubs) ∨
    ∃ earlier message later raw, messages = earlier ++ message :: later ∧
      (∀ first ∈ earlier, ∀ raw, ¬ IsMistimed first raw) ∧ IsMistimed message raw := by
  induction messages with
  | nil => exact .inl ⟨[], rfl, .nil⟩
  | cons message messages ih =>
    by_cases mistimed : ∃ raw, IsMistimed message raw
    · obtain ⟨raw, mistimed⟩ := mistimed
      exact .inr ⟨[], message, messages, raw, rfl, nofun, mistimed⟩
    · have timely : ∀ raw, ¬ IsMistimed message raw := fun raw late => mistimed ⟨raw, late⟩
      rcases ih with ⟨hubs, whole, each⟩ | ⟨earlier, first, later, raw, rfl, before, late⟩
      · obtain ⟨hub, converted⟩ := exists_ofMessage timely
        exact .inl ⟨hub :: hubs, by simp only [ofMessages, converted, whole], .cons converted each⟩
      · exact .inr ⟨message :: earlier, first, later, raw, rfl, List.forall_mem_cons.2 ⟨timely, before⟩,
          late⟩

end HubMessage

namespace PropertySet

/-- Why a body is no patch: it is no text, no document, or a document that is no object. -/
inductive IsNoPatch (body : Bytes) : Fault → Prop
  | notText (undecoded : Utf8.decode? body = none) :
      IsNoPatch body (.invalidMessageFormat "reported properties are not UTF-8: ")
  | notJson {text : List Char} (decoded : Utf8.decode? body = some text)
      (unread : Json.Value.read? body = none) :
      IsNoPatch body (.invalidMessageFormat "reported properties are not valid JSON: ")
  | notObject {text : List Char} {document : Json.Value} (decoded : Utf8.decode? body = some text)
      (read : Json.Value.read? body = some document) (other : ∀ members, document ≠ .object members) :
      IsNoPatch body
        (.invalidMessageFormat ("reported properties must be a JSON object, got " ++ document.kind))

theorem ofMessage_of_isNoPatch {message : Message} {fault : Fault}
    (unfit : IsNoPatch message.body fault) : ofMessage message = .error fault := by
  unfold ofMessage
  cases unfit with
  | notText undecoded => rw [undecoded]
  | notJson decoded unread => simp only [decoded, unread]
  | @notObject text document decoded read other =>
    simp only [decoded, read]
    cases document with
    | object members => exact absurd rfl (other members)
    | _ => rfl

end PropertySet

namespace Session

variable {session : Session} {command : Command} {fault : Fault}

/-! ## Refusals -/

/-- Whether a command is for the bound inbox. -/
def Command.isForInbox : Command → Bool
  | .install _ | .remove _ | .startListening => true
  | _ => false

/-- The faults with which a session refuses a command. -/
inductive Refuses (session : Session) : Command → Fault → Prop
  /-- Feedback needs the name of a message, whether or not the session is closed. -/
  | blank {messageId : String} (status : Feedback) (blank : Text.isBlankText messageId = true) :
      Refuses session (.sendFeedback messageId status) blankIdFault
  | closed {command : Command} (inactive : session.active = false) (other : command ≠ .close)
      (named : ∀ messageId status, command = .sendFeedback messageId status →
        Text.isBlankText messageId = false) :
      Refuses session command session.closedFault
  | unbound {command : Command} (active : session.active = true) (inbox : command.isForInbox = true)
      (bare : session.bound = none) : Refuses session command session.unboundFault
  | message {message : Message} {raw : String} (active : session.active = true)
      (mistimed : HubMessage.IsMistimed message raw) :
      Refuses session (.send message) (HubMessage.enqueuedTimeFault raw)
  /-- Of a batch the first message that cannot be converted counts. -/
  | batch {earlier : List Message} {message : Message} (later : List Message) {raw : String}
      (active : session.active = true)
      (timely : ∀ first ∈ earlier, ∀ raw, ¬ HubMessage.IsMistimed first raw)
      (mistimed : HubMessage.IsMistimed message raw) :
      Refuses session (.sendBatch (earlier ++ message :: later)) (HubMessage.enqueuedTimeFault raw)
  | patch {patch : Message} {fault : Fault} (active : session.active = true)
      (unfit : PropertySet.IsNoPatch patch.body fault) : Refuses session (.updateReported patch) fault

/-- Where a command for the inbox leads in an active session. -/
theorem exists_lookup_of_isForInbox (active : session.active = true) (inbox : command.isForInbox = true) :
    ∃ op, session.start command = .go session (.lookup op) := by
  cases command with
  | install kind | remove kind | startListening =>
    simp only [start, active, if_true, accept]
    exact ⟨_, rfl⟩
  | _ => cases inbox

/-- The first look of a command that is refused: it ends, or the inbox is still to be found. -/
theorem Refuses.start (refuses : Refuses session command fault) :
    session.start command = .done session (command.refusal fault) ∨
      ∃ op, session.start command = .go session (.lookup op) ∧ command.isForInbox = true ∧
        session.bound = none ∧ fault = session.unboundFault := by
  cases refuses with
  | blank status blank =>
    left
    simp only [Session.start, blank, if_true]
    rfl
  | closed inactive other named =>
    left
    unfold Session.start
    split
    case h_1 => exact absurd rfl other
    case h_2 messageId status =>
      simp only [named messageId status rfl, inactive, Bool.false_eq_true, if_false]
      rfl
    case h_3 => simp only [inactive, Bool.false_eq_true, if_false]
  | unbound active inbox bare =>
    right
    obtain ⟨op, leads⟩ := exists_lookup_of_isForInbox active inbox
    exact ⟨op, leads, inbox, bare, rfl⟩
  | message active mistimed =>
    left
    simp only [Session.start, active, if_true, accept, HubMessage.ofMessage_of_mistimed mistimed]
    rfl
  | batch later active timely mistimed =>
    left
    simp only [Session.start, active, if_true, accept,
      HubMessage.ofMessages_of_mistimed timely mistimed]
    rfl
  | patch active unfit =>
    left
    simp only [Session.start, active, if_true, accept, PropertySet.ofMessage_of_isNoPatch unfit]
    rfl

theorem refusal_of_isForInbox (inbox : command.isForInbox = true) (fault : Fault) :
    command.refusal fault = .done (.error fault) := by
  cases command <;> first | rfl | cases inbox

/-- A call that a command to send leads to. -/
inductive Sends : Command → ClientCall → Prop
  | one {message : Message} {hub : HubMessage} (converted : HubMessage.ofMessage message = .ok hub) :
      Sends (.send message) (.send hub)
  | many {messages : List Message} {hubs : List HubMessage}
      (converted : List.Forall₂ (fun message hub => HubMessage.ofMessage message = .ok hub)
        messages hubs) :
      Sends (.sendBatch messages) (.sendBatch hubs)

/-- A command to send that is not refused leads to one call, with all messages converted. -/
theorem exists_sends (sends : command.isSend = true) (allowed : ∀ fault, ¬ Refuses session command fault) :
    ∃ call, Sends command call ∧ session.start command = .go session (.sending call) := by
  have active : session.active = true := by
    rw [← Bool.not_eq_false]
    intro inactive
    refine allowed _ (.closed inactive ?_ ?_)
    · rintro rfl
      cases sends
    · rintro messageId status rfl
      cases sends
  cases command with
  | send message =>
    obtain ⟨hub, converted⟩ := HubMessage.exists_ofMessage fun _ mistimed =>
      allowed _ (.message active mistimed)
    refine ⟨.send hub, .one converted, ?_⟩
    simp only [Session.start, active, if_true, accept, converted]
    rfl
  | sendBatch messages =>
    rcases HubMessage.ofMessages_cases messages with
      ⟨hubs, whole, each⟩ | ⟨earlier, message, later, raw, rfl, timely, mistimed⟩
    · refine ⟨.sendBatch hubs, .many each, ?_⟩
      simp only [Session.start, active, if_true, accept, whole]
      rfl
    · exact absurd (.batch later active timely mistimed) (allowed _)
  | _ => cases sends

/-! ## Refused operations in a run -/

section

variable {run : Run} {member : Nat} {op : Op}

theorem act_steps (held : run.members[member]? = some (.running op)) (free : op.request? = none) :
    act run (.steps member) =
      run.follow member (run.state.step op) (run.state.notesOf (run.state.step op)) := by
  simp only [act, Crew.advance, held, onStep, free]

theorem act_steps_of_ended {result : Result} (ended : run.members[member]? = some (.ended result)) :
    act run (.steps member) = run := by
  simp only [act, Crew.advance, ended]

/-- A position from which a command that is refused with a fault ends, or looks once more. -/
inductive Pending (command : Command) (fault : Fault) : Op → Prop
  | begin : Pending command fault (.begin command)
  | lookup {identity : String} (op : Inbox.Op) (inbox : command.isForInbox = true)
      (unbound : fault = .receiverNotBound identity) : Pending command fault (.lookup op)

theorem Pending.free (pending : Pending command fault op) : op.request? = none := by
  cases pending <;> rfl

/-- The only refusal that says so is that no inbox is bound. -/
theorem Refuses.unbound_of_eq {identity : String} (refuses : Refuses session command fault)
    (unbound : fault = .receiverNotBound identity) :
    session.bound = none ∧ fault = session.unboundFault := by
  cases refuses with
  | unbound active inbox bare => exact ⟨bare, rfl⟩
  | patch active unfit => cases unfit <;> cases unbound
  | blank | closed | message | batch => cases unbound

/-- The next look of an operation that is refused. -/
theorem Pending.step (pending : Pending command fault op) (refuses : Refuses session command fault) :
    session.step op = .done session (command.refusal fault) ∨
      ∃ later, session.step op = .go session later ∧ Pending command fault later := by
  cases pending with
  | begin =>
    rcases refuses.start with ends | ⟨op, leads, inbox, _, unbound⟩
    · exact .inl ends
    · exact .inr ⟨.lookup op, leads, .lookup op inbox unbound⟩
  | lookup op inbox unbound =>
    obtain ⟨bare, rfl⟩ := refuses.unbound_of_eq unbound
    left
    simp only [Session.step, bare, refusal_of_isForInbox inbox]

/-- What has become of an operation that is refused with a fault: it has yet to look, or it has
ended. -/
def Refused (command : Command) (fault : Fault) (story : List Note) (progress : Progress Op Result)
    (told : List Note) : Prop :=
  (∃ op, progress = .running op ∧ Pending command fault op ∧ told = story) ∨
    progress = .ended (command.refusal fault) ∧ told = story ++ [.ended (command.refusal fault)]

/-- A move of such an operation changes nothing in the session, and ends it or has it look once more. -/
theorem Pending.move {told : List Note} {move : Move Session Op Result} (story : List Note)
    (pending : Pending command fault op) (refuses : Refuses session command fault)
    (moved : Moves session op told move) : move.state = session ∧
      Refused command fault story move.progress (story ++ (told ++ session.notesOf move)) := by
  cases moved with
  | step free =>
    rcases pending.step refuses with ends | ⟨later, leads, pending'⟩
    · rw [ends, notesOf_done rfl]
      exact ⟨rfl, .inr ⟨rfl, rfl⟩⟩
    · rw [leads, notesOf_go rfl, pending'.free]
      exact ⟨rfl, .inl ⟨later, rfl, pending', List.append_nil story⟩⟩
  | answer stamp waits | hearing waits =>
    rw [pending.free] at waits
    cases waits

/-- Whatever happens on the session does not matter to an operation that is refused. -/
theorem refused_act {story : List Note} {progress : Progress Op Result}
    (held : run.members[member]? = some progress)
    (refused : Refused command fault story progress (run.story member))
    (refuses : Refuses run.state command fault) (event : Event) :
    ∃ later, (act run event).members[member]? = some later ∧
      Refused command fault story later ((act run event).story member) := by
  refine member_act held refused ?_ event
  rintro op told move rfl moved
  rcases refused with ⟨op', same, pending, same'⟩ | ⟨ended, _⟩
  · obtain rfl := Progress.running.inj same
    rw [same']
    exact (pending.move story refuses moved).2
  · cases ended

theorem refused_onward {story : List Note} {progress : Progress Op Result}
    (held : run.members[member]? = some progress)
    (refused : Refused command fault story progress (run.story member)) (events : List Event)
    (refuses : ∀ before after, events = before ++ after →
      Refuses (onward run before).state command fault) :
    ∃ later, (onward run events).members[member]? = some later ∧
      Refused command fault story later ((onward run events).story member) := by
  induction events generalizing run progress with
  | nil => exact ⟨progress, held, refused⟩
  | cons event events ih =>
    obtain ⟨later, held', refused'⟩ := refused_act held refused (refuses [] _ rfl) event
    refine ih held' refused' ?_
    rintro before after rfl
    exact refuses (event :: before) after rfl

theorem state_steps_of_refused {story told : List Note} {progress : Progress Op Result}
    (held : run.members[member]? = some progress) (refused : Refused command fault story progress told)
    (refuses : Refuses run.state command fault) : (act run (.steps member)).state = run.state := by
  rcases refused with ⟨op, rfl, pending, _⟩ | ⟨rfl, _⟩
  · rw [act_steps held pending.free]
    exact (pending.move story refuses (.step pending.free)).1
  · rw [act_steps_of_ended held]

/-! ## Sending once -/

/-- Whether an operation has neither begun nor is with the call that it was made for. -/
def Op.isTame : Op → Bool
  | .begin _ | .sending _ | .passing _ => false
  | _ => true

theorem isSend_of_isTame {call : ClientCall} (tame : op.isTame = true)
    (waits : op.request? = some (.call call)) : call.isSend = false := by
  cases op with
  | onInbox purpose number inner =>
    obtain ⟨made, awaits, same⟩ := Option.map_eq_some_iff.1 waits
    obtain rfl := Request.call.inj same
    obtain ⟨kind, callback, rfl⟩ := Inbox.Op.awaits_eq_some awaits
    rfl
  | fetching | closingClient cause answer =>
    obtain rfl := Request.call.inj (Option.some.inj waits)
    rfl
  | sending call' | passing call' => cases tame
  | _ => cases waits

/-- Once it has begun, an operation comes back neither to its beginning nor to the call it was made
for. -/
def Tames : Move Session Op Result → Prop
  | .go _ later => later.isTame = true
  | .done _ _ => True

theorem tames_afterInbox (session : Session) (answer : Answer Unit) (purpose : Purpose) :
    Tames (session.afterInbox answer purpose) := by
  cases purpose <;> trivial

theorem tames_ofInboxMove (session : Session) (purpose : Purpose) (number : Nat)
    (move : Move Inbox Inbox.Op (Answer Unit)) : Tames (session.ofInboxMove purpose number move) := by
  cases move with
  | go inbox op => rfl
  | done inbox answer => exact tames_afterInbox ..

theorem tames_step (session : Session) (free : op.request? = none)
    (begun : ∀ command, op ≠ .begin command) : Tames (session.step op) := by
  cases op with
  | begin command => exact absurd rfl (begun command)
  | lookup inner =>
    simp only [Session.step]
    split <;> trivial
  | onInbox purpose number inner =>
    simp only [Session.step]
    split <;> [exact tames_ofInboxMove ..; exact tames_afterInbox ..]
  | claim cause =>
    simp only [Session.step]
    split <;> [trivial; (cases cause <;> trivial)]
  | detach cause | replace listener | confirm | withdraw =>
    simp only [Session.step]
    split <;> trivial
  | fetching | sending call | passing call | closingClient cause answer | reporting fault => cases free

theorem tames_resume (session : Session) (stamp : String) (answer : ClientAnswer) {call : ClientCall}
    (waits : op.request? = some (.call call)) : Tames (session.resume stamp answer op) := by
  cases op with
  | fetching =>
    simp only [resume]
    split <;> trivial
  | sending made =>
    simp only [resume]
    split <;> [trivial; (split <;> trivial)]
  | passing made => trivial
  | onInbox purpose number inner =>
    simp only [resume]
    split <;> [exact tames_ofInboxMove ..; exact tames_afterInbox ..]
  | closingClient cause inbox =>
    simp only [resume]
    cases cause with
    | asked => trivial
    | rejected fault =>
      simp only [tornDown]
      split <;> trivial
  | _ => cases waits

theorem tames_of_moves {told : List Note} {move : Move Session Op Result}
    (moved : Moves session op told move) (begun : ∀ command, op ≠ .begin command) : Tames move := by
  cases moved with
  | step free => exact tames_step session free begun
  | answer stamp waits => exact tames_resume session stamp _ waits
  | hearing waits =>
    cases op with
    | reporting fault => trivial
    | onInbox purpose number inner =>
      obtain ⟨made, _, same⟩ := Option.map_eq_some_iff.1 waits
      cases same
    | _ => cases waits

/-- No move of an operation that has begun asks for a message to be sent. -/
theorem asked_not_mem_of_moves {told : List Note} {move : Move Session Op Result}
    (moved : Moves session op told move) (begun : ∀ command, op ≠ .begin command) {call : ClientCall}
    (sends : call.isSend = true) : .asked (.call call) ∉ told ++ session.notesOf move := by
  intro member
  rcases List.mem_append.1 member with before | after
  · cases moved <;> simp at before
  · unfold notesOf at after
    rcases List.mem_append.1 after with turned | later
    · split at turned <;> simp at turned
    · have tames := tames_of_moves moved begun
      cases move with
      | go state next =>
        obtain ⟨request, waits, same⟩ := Option.map_eq_some_iff.1 (Option.mem_toList.1 later)
        obtain rfl := Note.asked.inj same
        rw [isSend_of_isTame tames waits] at sends
        cases sends
      | done state result => simp at later

/-- What an operation that has begun does from now on, besides sending messages. -/
def SendsNoMore (story : List Note) (progress : Progress Op Result) (told : List Note) : Prop :=
  (∀ command, progress ≠ .running (.begin command)) ∧
    ∃ rest, told = story ++ rest ∧ ∀ call, call.isSend = true → .asked (.call call) ∉ rest

theorem sendsNoMore_act {story : List Note} {progress : Progress Op Result}
    (held : run.members[member]? = some progress)
    (quiet : SendsNoMore story progress (run.story member)) (event : Event) :
    ∃ later, (act run event).members[member]? = some later ∧
      SendsNoMore story later ((act run event).story member) := by
  refine member_act held quiet ?_ event
  rintro op told move rfl moved
  obtain ⟨begun, rest, whole, silent⟩ := quiet
  have begun' : ∀ command, op ≠ .begin command := fun command same => begun command (congrArg _ same)
  refine ⟨?_, rest ++ (told ++ run.state.notesOf move), ?_, ?_⟩
  · rintro command same
    cases move with
    | go state later =>
      obtain rfl := Progress.running.inj same
      cases tames_of_moves moved begun'
    | done state result => cases same
  · rw [whole, List.append_assoc]
  · intro call sends
    rw [List.mem_append, not_or]
    exact ⟨silent call sends, asked_not_mem_of_moves moved begun' sends⟩

theorem sendsNoMore_onward {story : List Note} {progress : Progress Op Result}
    (held : run.members[member]? = some progress)
    (quiet : SendsNoMore story progress (run.story member)) (events : List Event) :
    ∃ rest, (onward run events).story member = story ++ rest ∧
      ∀ call, call.isSend = true → .asked (.call call) ∉ rest := by
  induction events generalizing run progress with
  | nil => exact quiet.2
  | cons event events ih =>
    obtain ⟨later, held', quiet'⟩ := sendsNoMore_act held quiet event
    exact ih held' quiet'

end

/-! ## No trace -/

/-- What it means that a session refuses without a trace, and sends once what it does not refuse. -/
structure RefusesWithoutTrace (run : Run) : Prop where
  /-- An operation that is refused ends with its fault, and nothing else has happened: the session is the
  same, the client was asked for nothing, and nothing was reported. -/
  alone : ∀ member command fault, run.members[member]? = some (.running (.begin command)) →
    Refuses run.state command fault →
      onward run [.steps member, .steps member] =
        run.follow member (.done run.state (command.refusal fault)) [.ended (command.refusal fault)]
  /-- The same holds among other operations, for as long as the session refuses this one with the
  fault. -/
  meanwhile : ∀ member command fault events,
    run.members[member]? = some (.running (.begin command)) →
    (∀ before after, events = before ++ after → Refuses (onward run before).state command fault) →
      let later := onward run events
      (act later (.steps member)).state = later.state ∧
        (later.story member = run.story member ∨
          later.members[member]? = some (.ended (command.refusal fault)) ∧
            later.story member = run.story member ++ [.ended (command.refusal fault)])
  /-- An operation to send that is not refused asks the client for one call, which carries all of its
  messages, and never for another one. -/
  sends : ∀ member command, run.members[member]? = some (.running (.begin command)) →
    command.isSend = true → (∀ fault, ¬ Refuses run.state command fault) →
      ∃ call, Sends command call ∧
        act run (.steps member) =
          run.follow member (.go run.state (.sending call)) [.asked (.call call)] ∧
        ∀ events, ∃ rest, (onward (act run (.steps member)) events).story member =
            run.story member ++ .asked (.call call) :: rest ∧
          ∀ again, again.isSend = true → .asked (.call again) ∉ rest

/-- Whatever is under way on a session, in whatever state it is, an operation that fails before the
network leaves no trace. -/
theorem refusesWithoutTrace (run : Run) : RefusesWithoutTrace run where
  alone := by
    intro member command fault held refuses
    have first := act_steps held rfl
    simp only [onward, List.foldl_cons, List.foldl_nil]
    rcases refuses.start with ends | ⟨op, leads, inbox, bare, unbound⟩
    · rw [Session.step, ends, notesOf_done rfl] at first
      rw [first, act_steps_of_ended (Crew.member_follow_self held)]
    · rw [Session.step, leads, notesOf_go rfl] at first
      have found : run.state.step (.lookup op) = .done run.state (command.refusal fault) := by
        simp only [Session.step, bare, refusal_of_isForInbox inbox, unbound]
      have looks : act run (.steps member) = run.follow member (.go run.state (.lookup op)) [] := first
      have held' : (run.follow member (.go run.state (.lookup op)) []).members[member]? =
          some (.running (.lookup op)) := Crew.member_follow_self held
      rw [looks, act_steps held' rfl, Crew.state_follow, Move.state_go, found, notesOf_done rfl]
      simp [Crew.follow]
  meanwhile := by
    intro member command fault events held refuses
    obtain ⟨progress, held', refused⟩ := refused_onward held
      (.inl ⟨_, rfl, .begin, rfl⟩) events refuses
    refine ⟨state_steps_of_refused held' refused (refuses events [] (List.append_nil events).symm), ?_⟩
    rcases refused with ⟨_, _, _, told⟩ | ⟨rfl, told⟩
    · exact .inl told
    · exact .inr ⟨held', told⟩
  sends := by
    intro member command held sends allowed
    obtain ⟨call, made, leads⟩ := exists_sends sends allowed
    have first := act_steps held rfl
    rw [Session.step, leads, notesOf_go rfl] at first
    refine ⟨call, made, first, ?_⟩
    intro events
    have held' : (act run (.steps member)).members[member]? = some (.running (.sending call)) := by
      rw [first]
      exact Crew.member_follow_self held
    have told : (act run (.steps member)).story member =
        run.story member ++ [.asked (.call call)] := by
      rw [first, Crew.story_follow_self]
      rfl
    have begun : ∀ command, (.running (.sending call) : Progress Op Result) ≠
        .running (.begin command) := by
      intro command same
      cases same
    obtain ⟨rest, whole, silent⟩ := sendsNoMore_onward held'
      ⟨begun, [], (List.append_nil _).symm, fun _ _ => List.not_mem_nil⟩ events
    refine ⟨rest, ?_, silent⟩
    rw [whole, told, List.append_assoc, List.singleton_append]

/-- An em space and a no-break space are no name, whether or not the session is closed. -/
example (session : Session) : Refuses session (.sendFeedback "\u2003\u00a0" .complete) blankIdFault :=
  .blank .complete (by decide)

end Session

end DeviceGateway
