/-
# How operations on a session come to their end

Each position of an operation has a bound on the moves that the operation still makes, and every move
lowers it.  No operation is stuck either, since whatever it waits for can be answered.  So what holds of
operations that have ended is not said in vain: every run can be driven to a point at which all of them
have.
-/

import DeviceGateway.Proofs.Session.Run

namespace DeviceGateway

namespace Inbox

/-- A bound on the moves that an operation on an inbox still makes. -/
def Op.toGo : Op → Nat
  | .install _ => 6
  | .installing _ _ => 5
  | .installed _ => 4
  | .confirm _ => 3
  | .withdraw _ => 2
  | .withdrawing _ => 1
  | .removing _ => 2
  | .removed _ => 1
  | .start => 2
  | .launch => 1
  | .cancel => 5
  | .clear .method _ => 4
  | .clearing .method _ => 3
  | .clear .desired _ => 2
  | .clearing .desired _ => 1

theorem Op.toGo_pos (op : Op) : 0 < op.toGo := by
  cases op with
  | clear kind result | clearing kind result => cases kind <;> exact Nat.succ_pos _
  | _ => exact Nat.succ_pos _

/-- Whether an operation ends or comes nearer to its end. -/
def Shortens (op : Op) : Move Inbox Op (Answer Unit) → Prop
  | .go _ later => later.toGo < op.toGo
  | .done _ _ => True

theorem shortens_step (inbox : Inbox) {op : Op} (free : op.awaits = none) :
    Shortens op (inbox.step op) := by
  cases op with
  | installing kind callback | withdrawing kind | removing kind | clearing kind result => cases free
  | installed kind | removed kind | cancel => simp [step, Shortens, Op.toGo]
  | clear kind result =>
    simp only [step]
    split
    all_goals cases kind <;> simp [afterClear, Shortens, Op.toGo]
  | install kind | confirm kind | withdraw kind | start | launch =>
    simp only [step]
    split <;> simp [Shortens, Op.toGo]

theorem shortens_resume (inbox : Inbox) {op : Op} {call : ClientCall} (waits : op.awaits = some call)
    (answer : Answer Unit) : Shortens op (inbox.resume answer op) := by
  cases op with
  | clearing kind result => cases kind <;> simp [resume, afterClear, Shortens, Op.toGo]
  | installing kind callback | withdrawing kind | removing kind =>
    cases answer <;> simp [resume, Shortens, Op.toGo]
  | _ => cases waits

end Inbox

namespace Session

/-- A bound on the moves that an operation still makes after its inbox has answered. -/
def Purpose.toGo : Purpose → Nat
  | .request | .orphan => 0
  | .teardown _ => 2
  | .replacement => 7

/-- A bound on the moves that an operation still makes. -/
def Op.toGo : Op → Nat
  | .begin _ => 14
  | .fetching | .passing _ => 1
  | .sending _ => 10
  | .lookup op => op.toGo + 1
  | .onInbox purpose _ op => purpose.toGo + op.toGo
  | .claim _ => 9
  | .detach _ => 8
  | .closingClient _ _ => 2
  | .reporting _ => 1
  | .replace _ => 13
  | .confirm => 7
  | .withdraw => 6

/-- Whether an operation ends or comes nearer to its end. -/
def Shortens (op : Op) : Move Session Op Result → Prop
  | .go _ later => later.toGo < op.toGo
  | .done _ _ => True

theorem shortens_forward (session : Session) {op : Op} (call : Answer ClientCall)
    (position : ClientCall → Op) (near : ∀ call, (position call).toGo < op.toGo) :
    Shortens op (session.forward call position) := by
  cases call with
  | ok call => exact near call
  | error fault => trivial

theorem shortens_accept (session : Session) (command : Command) :
    Shortens (.begin command) (session.accept command) := by
  have lookups : ∀ op : Inbox.Op, op.toGo ≤ 6 → Shortens (.begin command) (.go session (.lookup op)) := by
    intro op near
    show op.toGo + 1 < 14
    omega
  cases command with
  | send _ | sendBatch _ | updateReported _ =>
    apply shortens_forward
    intro call
    simp [Op.toGo]
  | close | getTwin | sendFeedback _ _ | bind _ => simp [accept, Shortens, Op.toGo]
  | install _ | remove _ | startListening => exact lookups _ (by simp [Inbox.Op.remove, Inbox.Op.toGo])

theorem shortens_start (session : Session) (command : Command) :
    Shortens (.begin command) (session.start command) := by
  unfold start
  split
  case h_1 => exact shortens_accept session .close
  case h_2 =>
    split
    case isTrue => trivial
    case isFalse =>
      split
      case isTrue => exact shortens_accept session _
      case isFalse => trivial
  case h_3 =>
    split
    case isTrue => exact shortens_accept session command
    case isFalse => trivial

theorem shortens_afterInbox (session : Session) {op : Op} (answer : Answer Unit) {purpose : Purpose}
    (near : purpose.toGo < op.toGo) : Shortens op (session.afterInbox answer purpose) := by
  cases purpose <;> first | exact near | trivial

theorem shortens_ofInboxMove (session : Session) {purpose : Purpose} {number : Nat} {op : Inbox.Op}
    {move : Move Inbox Inbox.Op (Answer Unit)} (near : Inbox.Shortens op move) :
    Shortens (.onInbox purpose number op) (session.ofInboxMove purpose number move) := by
  cases move with
  | go inbox later => exact Nat.add_lt_add_left near _
  | done inbox answer => exact shortens_afterInbox _ _ (Nat.lt_add_of_pos_right op.toGo_pos)

theorem shortens_step (session : Session) {op : Op} (free : op.request? = none) :
    Shortens op (session.step op) := by
  cases op with
  | begin command => exact shortens_start session command
  | lookup op =>
    simp only [step]
    split
    case h_1 => simp [Shortens, Op.toGo, Purpose.toGo]
    case h_2 => trivial
  | onInbox purpose number op =>
    have idle : op.awaits = none := by simpa [Op.request?] using free
    simp only [step]
    split
    case h_1 inbox _ => exact shortens_ofInboxMove session (Inbox.shortens_step inbox idle)
    case h_2 => exact shortens_afterInbox _ _ (Nat.lt_add_of_pos_right op.toGo_pos)
  | claim cause =>
    simp only [step]
    split
    case isTrue => simp [Shortens, Op.toGo]
    case isFalse => cases cause <;> trivial
  | detach cause | replace listener | confirm | withdraw =>
    simp only [step]
    split <;> simp [Shortens, Op.toGo, Purpose.toGo, Inbox.Op.close, Inbox.Op.toGo]
  | fetching | sending _ | passing _ | closingClient _ _ | reporting _ => cases free

theorem shortens_resume (session : Session) {op : Op} {call : ClientCall} {answer : ClientAnswer}
    (stamp : String) (waits : op.request? = some (.call call))
    (admitted : call.admits answer = true) : Shortens op (session.resume stamp answer op) := by
  cases op with
  | fetching =>
    obtain rfl := Request.call.inj (Option.some.inj waits)
    cases answer with
    | twin answer => trivial
    | done answer | received answer => cases admitted
  | sending call =>
    simp only [resume]
    split
    case h_1 => trivial
    case h_2 =>
      split
      case isTrue => simp [Shortens, Op.toGo]
      case isFalse => trivial
  | passing call => trivial
  | onInbox purpose number op =>
    simp only [resume]
    split
    case h_1 inbox _ =>
      cases asked : op.awaits with
      | none => simp [Op.request?, asked] at waits
      | some call => exact shortens_ofInboxMove session (Inbox.shortens_resume inbox asked _)
    case h_2 => exact shortens_afterInbox _ _ (Nat.lt_add_of_pos_right op.toGo_pos)
  | closingClient cause inbox =>
    cases cause with
    | asked => trivial
    | rejected fault =>
      simp only [resume, tornDown]
      split
      case isTrue => simp [Shortens, Op.toGo]
      case isFalse => trivial
  | begin _ | lookup _ | claim _ | detach _ | reporting _ | replace _ | confirm | withdraw =>
    cases waits

theorem shortens_reported (session : Session) {op : Op} {status : ConnectionStatus}
    {reason : StatusReason} (waits : op.request? = some (.report status reason)) :
    Shortens op (session.reported op) := by
  cases op with
  | reporting fault => trivial
  | onInbox purpose number op => cases asked : op.awaits <;> simp [Op.request?, asked] at waits
  | _ => cases waits

/-- Every move of an operation is its last one or leaves it fewer moves to go. -/
theorem shortens_of_moves {session : Session} {op : Op} {told : List Note}
    {move : Move Session Op Result} (moved : Moves session op told move) : Shortens op move := by
  cases moved with
  | step free => exact shortens_step session free
  | answer stamp waits admitted => exact shortens_resume session stamp waits admitted
  | hearing waits => exact shortens_reported session waits

/-! ## Driving a run to its end -/

/-- Whether an operation has ended. -/
def Ended (run : Run) (member : Nat) : Prop :=
  ∃ result, run.members[member]? = some (.ended result)

theorem exists_admits (call : ClientCall) : ∃ answer, call.admits answer = true := by
  cases call with
  | getTwin => exact ⟨.twin (.error .notConnected), rfl⟩
  | receive timeout => exact ⟨.received (.ok none), rfl⟩
  | _ => exact ⟨.done (.ok ()), rfl⟩

/-- No operation is stuck: there is always an event that lets it move. -/
theorem exists_moves {run : Run} {member : Nat} {op : Op}
    (held : run.members[member]? = some (.running op)) : ∃ event told move,
      Moves run.state op told move ∧
        act run event = run.follow member move (told ++ run.state.notesOf move) := by
  cases waits : op.request? with
  | none =>
    refine ⟨.steps member, [], _, .step waits, ?_⟩
    simp [act, Crew.advance, held, onStep, waits]
  | some request =>
    cases request with
    | call call =>
      obtain ⟨answer, admitted⟩ := exists_admits call
      refine ⟨.answers member "" answer, _, _, .answer "" waits admitted, ?_⟩
      simp [act, Crew.advance, held, onAnswer, waits, admitted]
    | report status reason =>
      refine ⟨.hears member, [], _, .hearing waits, ?_⟩
      simp [act, Crew.advance, held, onHearing, waits]

/-- One operation can be driven to its end while the others stand still. -/
theorem exists_ended_member (run : Run) {member : Nat} (within : member < run.members.length) :
    ∃ events : List Event, Ended (onward run events) member ∧
      (onward run events).members.length = run.members.length ∧
      ∀ other, other ≠ member →
        (onward run events).members[other]? = run.members[other]? := by
  have held := List.getElem?_eq_getElem within
  cases reached : run.members[member] with
  | ended result =>
    rw [reached] at held
    exact ⟨[], ⟨result, held⟩, rfl, fun _ _ => rfl⟩
  | running op =>
    rw [reached] at held
    clear reached
    -- The bound on the moves still to go is what the induction is on.
    induction go : op.toGo using Nat.strongRecOn generalizing op run with
    | ind bound ih =>
      obtain ⟨event, told, move, moved, led⟩ := exists_moves held
      have others : ∀ other, other ≠ member →
          (act run event).members[other]? = run.members[other]? := by
        intro other apart
        rw [led, Crew.members_follow held, if_neg apart]
      have now : (act run event).members[member]? = some move.progress := by
        rw [led, Crew.members_follow held, if_pos rfl]
      have kept : (act run event).members.length = run.members.length := by
        rw [led]
        exact List.length_set
      cases move with
      | done state result => exact ⟨[event], ⟨result, now⟩, kept, others⟩
      | go state later =>
        have fewer : later.toGo < bound := go ▸ shortens_of_moves moved
        obtain ⟨events, ended, kept', others'⟩ :=
          ih _ fewer (act run event) (kept ▸ within) later now rfl
        refine ⟨event :: events, ended, kept'.trans kept, ?_⟩
        intro other apart
        exact (others' other apart).trans (others other apart)

/-- Every run can be driven to a point at which no operation is under way. -/
theorem exists_all_ended (run : Run) : ∃ events,
    ∀ member, member < (onward run events).members.length →
      Ended (onward run events) member := by
  have driven : ∀ count, ∃ events,
      (onward run events).members.length = run.members.length ∧
        ∀ member, member < count → member < run.members.length →
          Ended (onward run events) member := by
    intro count
    induction count with
    | zero => exact ⟨[], rfl, nofun⟩
    | succ count ih =>
      obtain ⟨events, kept, ended⟩ := ih
      by_cases within : count < (onward run events).members.length
      · obtain ⟨more, last, kept', others⟩ := exists_ended_member _ within
        refine ⟨events ++ more, ?_, ?_⟩
        · rw [onward_append]
          exact kept'.trans kept
        · intro member early inside
          rw [onward_append]
          by_cases same : member = count
          · rw [same]
            exact last
          · obtain ⟨result, held⟩ := ended member (by omega) inside
            exact ⟨result, (others member same).trans held⟩
      · refine ⟨events, kept, ?_⟩
        intro member early inside
        exact ended member (by omega) inside
  obtain ⟨events, kept, ended⟩ := driven run.members.length
  refine ⟨events, ?_⟩
  intro member within
  rw [kept] at within
  exact ended member within within

end Session

end DeviceGateway
