/-
# Sending through a client that was refused

A call that publishes through a client whose credentials were refused is answered with the fault of the
refusal.  The session takes that for the end of its credentials: it turns inactive and is torn down,
unless that has happened already, and in either case the fault is returned.  A message that somebody
sends through a closed session comes back with another fault, before it reaches the client.

The operation needs nobody else for that.  Whatever the others do, it ends with the fault after so many
steps of its own.
-/

import DeviceGateway.Proofs.Fleet.Stations
import DeviceGateway.Proofs.Session.Ending

namespace DeviceGateway

/-- Whether a call publishes messages. -/
def ClientCall.publishes : ClientCall → Bool
  | send _ | sendBatch (_ :: _) => true
  | _ => false

/-- Whether a call has a message to publish yet. -/
def Uplink.Op.publishes : Uplink.Op → Bool
  | begin call => call.publishes
  | sending (_ :: _) => true
  | _ => false

namespace Session

/-- Whether an operation closes the session because of a fault that it will return. -/
def Op.Rejects (fault : Fault) : Op → Prop
  | claim (.rejected other) | detach (.rejected other) | onInbox (.teardown (.rejected other)) _ _
  | closingClient (.rejected other) _ | reporting other => other = fault
  | _ => False

/-- Whether a move goes on to return a fault, or returns it. -/
def RejectingMove (fault : Fault) : Move Session Op Result → Prop
  | .go _ op => op.Rejects fault
  | .done _ result => result = .done (.error fault)

variable (session : Session) {fault : Fault} {op : Op}

theorem rejecting_ofInboxMove (number : Nat) (move : Move Inbox Inbox.Op (Answer Unit)) :
    RejectingMove fault (session.ofInboxMove (.teardown (.rejected fault)) number move) := by
  cases move <;> rfl

theorem rejecting_step (rejects : op.Rejects fault) (free : op.request? = none) :
    RejectingMove fault (session.step op) := by
  cases op with
  | claim cause | detach cause =>
    cases cause with
    | asked => exact rejects.elim
    | rejected other =>
      obtain rfl : other = fault := rejects
      simp only [step]
      split <;> rfl
  | onInbox purpose number op =>
    cases purpose with
    | teardown cause =>
      cases cause with
      | asked => exact rejects.elim
      | rejected other =>
        obtain rfl : other = fault := rejects
        simp only [step]
        split <;> [exact rejecting_ofInboxMove ..; rfl]
    | request | replacement | orphan => exact rejects.elim
  | closingClient _ _ | reporting _ => cases free
  | _ => exact rejects.elim

theorem rejecting_resume (stamp : String) (answer : ClientAnswer) (rejects : op.Rejects fault)
    {call : ClientCall} (waits : op.request? = some (.call call)) :
    RejectingMove fault (session.resume stamp answer op) := by
  cases op with
  | onInbox purpose number op =>
    cases purpose with
    | teardown cause =>
      cases cause with
      | asked => exact rejects.elim
      | rejected other =>
        obtain rfl : other = fault := rejects
        simp only [resume]
        split <;> [exact rejecting_ofInboxMove ..; rfl]
    | request | replacement | orphan => exact rejects.elim
  | closingClient cause inbox =>
    cases cause with
    | asked => exact rejects.elim
    | rejected other =>
      obtain rfl : other = fault := rejects
      simp only [resume, tornDown]
      split <;> rfl
  | claim _ | detach _ | reporting _ => cases waits
  | _ => exact rejects.elim

theorem rejecting_reported (rejects : op.Rejects fault) {status : ConnectionStatus}
    {reason : StatusReason} (waits : op.request? = some (.report status reason)) :
    RejectingMove fault (session.reported op) := by
  cases op with
  | reporting other => exact congrArg (fun fault => Result.done (.error fault)) rejects
  | onInbox purpose number op => cases asked : op.awaits <;> simp [Op.request?, asked] at waits
  | claim _ | detach _ | closingClient _ _ => cases waits
  | _ => exact rejects.elim

/-- What a session calls its client for while it is torn down is done at once. -/
theorem start_of_rejects (rejects : op.Rejects fault) {call : ClientCall}
    (waits : op.request? = some (.call call)) :
    call.admits (.done (.ok ())) = true ∧
      ∀ uplink : Uplink, ∃ after, uplink.start call = .done after (.done (.ok ())) := by
  have callbacks : ∀ kind callback, call = .setCallback kind callback →
      call.admits (.done (.ok ())) = true ∧
        ∀ uplink : Uplink, ∃ after, uplink.start call = .done after (.done (.ok ())) := by
    rintro kind callback rfl
    exact ⟨rfl, fun uplink => by cases kind <;> exact ⟨_, rfl⟩⟩
  cases op with
  | onInbox purpose number op =>
    cases op with
    | installing | withdrawing | removing | clearing =>
      obtain rfl := Request.call.inj (Option.some.inj waits)
      exact callbacks _ _ rfl
    | _ => cases waits
  | closingClient cause inbox =>
    obtain rfl := Request.call.inj (Option.some.inj waits)
    exact ⟨rfl, fun uplink => ⟨_, rfl⟩⟩
  | claim _ | detach _ | reporting _ => cases waits
  | _ => exact rejects.elim

end Session

namespace Fleet

open Registry (Result)

variable {fleet : Fleet} {run : Run} {member number : Nat} {op : Op} {notes : List Note}
  {move : Move Fleet Op Result} {station : Station} {fault : Fault} {result : Result}

/-! ## Operations that need nobody else -/

/-- How many moves an operation on a session still makes, at most, where each of its calls is done
within two. -/
def Op.toGo : Op → Nat
  | plain (.onSession _ _ op) => 4 * op.toGo + 3
  | calling _ _ op (.begin _) => 4 * op.toGo + 2
  | calling _ _ op _ => 4 * op.toGo + 1
  | _ => 0

/-- After whatever else has happened, an operation ends with a result by so many steps of its own. -/
def EndsWith (run : Run) (member : Nat) (result : Result) : Prop :=
  ∀ events stamp, ∃ count,
    (onward run (events ++ List.replicate count (.steps member stamp))).members[member]? =
      some (.ended result)

/-- As long as something holds, operations of a kind can always take a step, and go on to a result. -/
structure Drives (Holds : Run → Prop) (Kind : Op → Prop) (result : Result) : Prop where
  keeps : ∀ run event, Holds run → Holds (act run event)
  steps : ∀ run op stamp, Holds run → Kind op →
    ∃ move notes, run.state.onStep stamp op = some (move, notes)
  moves : ∀ run op notes move, Holds run → Kind op → Moves run.state op notes move →
    (∃ later, move.progress = .running later ∧ Kind later ∧ later.toGo < op.toGo) ∨
      move.progress = .ended result

/-- How far an operation of a kind has come that goes on to a result. -/
def Driven (Kind : Op → Prop) (result : Result) : Progress Op Result → Prop
  | .running op => Kind op
  | .ended reached => reached = result

variable {Holds : Run → Prop} {Kind : Op → Prop}

theorem Drives.driven_act (drives : Drives Holds Kind result) (holds : Holds run)
    {progress : Progress Op Result} (held : run.members[member]? = some progress)
    (driven : Driven Kind result progress) (event : Event) :
    ∃ later, (act run event).members[member]? = some later ∧ Driven Kind result later := by
  refine @act_induction (fun later => ∃ progress, later.members[member]? = some progress ∧
    Driven Kind result progress) run event ⟨progress, held, driven⟩ ?launches ?moves ?drifts
  case launches =>
    exact fun _ _ _ ⟨progress, held, driven⟩ => ⟨progress, Crew.member_enter _ held, driven⟩
  case drifts => exact fun _ _ _ _ => ⟨progress, held, driven⟩
  case moves =>
    intro mover op notes move _ held' moved
    by_cases same : member = mover
    · subst same
      obtain rfl := Option.some.inj (held.symm.trans held')
      refine ⟨move.progress, Crew.member_follow_self held', ?_⟩
      rcases drives.moves run op notes move holds driven moved with ⟨later, comes, kind, _⟩ | ended
      · rw [comes]
        exact kind
      · rw [ended]
        exact rfl
    · exact ⟨progress, Crew.member_follow_of_ne held' same held, driven⟩

theorem Drives.driven_onward (drives : Drives Holds Kind result) (holds : Holds run)
    {progress : Progress Op Result} (held : run.members[member]? = some progress)
    (driven : Driven Kind result progress) (events : List Event) :
    Holds (onward run events) ∧ ∃ later,
      (onward run events).members[member]? = some later ∧ Driven Kind result later := by
  refine @onward_induction (fun later => Holds later ∧ ∃ progress,
    later.members[member]? = some progress ∧ Driven Kind result progress) ?_ run
      ⟨holds, progress, held, driven⟩ events
  rintro middle event ⟨holds, progress, held, driven⟩
  exact ⟨drives.keeps middle event holds, drives.driven_act holds held driven event⟩

/-- An operation that can always take a step comes to its result. -/
theorem Drives.exists_ended (drives : Drives Holds Kind result) (holds : Holds run)
    (held : run.members[member]? = some (.running op)) (kind : Kind op) (stamp : String) :
    ∃ count, (onward run (List.replicate count (.steps member stamp))).members[member]? =
      some (.ended result) := by
  -- The bound on the moves still to go is what the induction is on.
  induction bound : op.toGo using Nat.strongRecOn generalizing op run with
  | ind toGo ih =>
    obtain ⟨move, notes, allowed⟩ := drives.steps run op stamp holds kind
    have led : act run (.steps member stamp) = run.follow member move notes := by
      simp [act, Crew.advance, held, allowed]
    have now : (act run (.steps member stamp)).members[member]? = some move.progress := by
      rw [led]
      exact Crew.member_follow_self held
    rcases drives.moves run op notes move holds kind (moves_of_onStep allowed) with
      ⟨later, comes, kind, fewer⟩ | ended
    · rw [comes] at now
      obtain ⟨count, reached⟩ := ih later.toGo (bound ▸ fewer) (drives.keeps _ _ holds) now kind rfl
      exact ⟨count + 1, reached⟩
    · rw [ended] at now
      exact ⟨1, now⟩

theorem Drives.endsWith (drives : Drives Holds Kind result) (holds : Holds run)
    (held : run.members[member]? = some (.running op)) (kind : Kind op) :
    EndsWith run member result := by
  intro events stamp
  obtain ⟨holds, progress, held, driven⟩ := drives.driven_onward holds held kind events
  simp only [onward_append]
  cases progress with
  | ended reached =>
    obtain rfl : reached = result := driven
    exact ⟨0, held⟩
  | running later => exact drives.exists_ended holds held driven stamp

/-! ## Sends that are refused -/

/-- A client was refused, and the registry hears what it announces. -/
structure Barred (run : Run) (number : Nat) (fault : Fault) : Prop where
  sound : Sound run
  refused : ∃ station, run.state.stations[number]? = some station ∧ Refused station fault

theorem barred_act (barred : Barred run number fault) (event : Event) :
    Barred (act run event) number fault := by
  obtain ⟨station, held, refused⟩ := barred.refused
  obtain ⟨after, held', turn⟩ := turn_act barred.sound held event
  exact ⟨sound_act barred.sound event, after, held', (refused.turn turn).1⟩

theorem Barred.session (barred : Barred run number fault) :
    ∃ session, run.state.registry.sessions[number]? = some session := by
  obtain ⟨station, held, _⟩ := barred.refused
  have within := (List.getElem?_eq_some_iff.1 held).1
  rw [barred.sound.paired] at within
  exact ⟨_, List.getElem?_eq_getElem within⟩

/-- Whether a message is still to be published through the client with a number. -/
def Op.Publishes (number : Nat) : Op → Prop
  | plain (.onSession .request other (.sending call)) => other = number ∧ call.publishes = true
  | calling .request other (.sending _) call => other = number ∧ call.publishes = true
  | _ => False

/-- Whether an operation closes the session with a number because of a fault that it will return. -/
def Op.Rejects (number : Nat) (fault : Fault) : Op → Prop
  | plain (.onSession .request other op) => other = number ∧ op.Rejects fault
  | calling .request other op (.begin call) =>
    other = number ∧ op.Rejects fault ∧ op.request? = some (.call call)
  | _ => False

/-- Whether an operation goes on to return the fault of the refusal. -/
def Op.Fails (number : Nat) (fault : Fault) (op : Op) : Prop :=
  op.Publishes number ∨ op.Rejects number fault

theorem eq_step_of_moves {uplink : Uplink} {call : Uplink.Op}
    {moved : Move Uplink Uplink.Op ClientAnswer} (impatient : uplink.patience? call = none)
    (sends : call.isReceiving = false) (moves : Uplink.Moves uplink call moved) :
    moved = uplink.step call := by
  cases moves with
  | step can => rfl
  | timeUp stuck waits => simp [impatient] at waits
  | givenUp receives => simp [sends] at receives

/-- A call that has something to publish through a client that was refused comes to publish it, and then
is answered with the fault of the refusal. -/
theorem publishing_of_moves {uplink : Uplink} {call : Uplink.Op}
    {moved : Move Uplink Uplink.Op ClientAnswer} (refused : uplink.gate.refusal = some fault)
    (publishes : call.publishes = true) (moves : Uplink.Moves uplink call moved) :
    (∃ after later, moved = .go after later ∧ later.publishes = true ∧ ∀ inner,
        Op.toGo (.calling .request number inner later) < Op.toGo (.calling .request number inner call)) ∨
      ∃ after, moved = .done after (.done (.error fault)) := by
  cases call with
  | begin call =>
    left
    obtain rfl := eq_step_of_moves rfl rfl moves
    cases call with
    | send message => exact ⟨_, _, rfl, rfl, fun inner => Nat.lt_succ_self _⟩
    | sendBatch messages =>
      cases messages with
      | nil => cases publishes
      | cons message rest => exact ⟨_, _, rfl, rfl, fun inner => Nat.lt_succ_self _⟩
    | _ => cases publishes
  | sending messages =>
    right
    obtain rfl := eq_step_of_moves rfl rfl moves
    cases messages with
    | nil => cases publishes
    | cons message rest =>
      refine ⟨uplink, ?_⟩
      simp only [Uplink.step, Uplink.publish_of_refusal refused]
  | _ => cases publishes

/-- Whether an operation has returned the fault of the refusal, or goes on to return it with fewer moves
still to go than a bound. -/
def FailsWithin (number : Nat) (fault : Fault) (bound : Nat) (progress : Progress Op Result) : Prop :=
  (∃ later, progress = .running later ∧ later.Fails number fault ∧ later.toGo < bound) ∨
    progress = .ended (.session (.done (.error fault)))

/-- Where an operation goes whose session goes on to return a fault. -/
theorem failsWithin_ofSessionMove {registry : Registry} {inner : Session.Op} {bound : Nat}
    {moved : Move Session Session.Op Session.Result} (rejecting : Session.RejectingMove fault moved)
    (near : Session.Shortens inner moved) (far : 4 * inner.toGo ≤ bound) :
    FailsWithin number fault bound (fleet.ofRegistryMove
      (registry.ofSessionMove .request number moved)).progress := by
  cases moved with
  | go session op =>
    refine .inl ⟨_, rfl, .inr ⟨rfl, rejecting⟩, ?_⟩
    have nearer : op.toGo < inner.toGo := near
    simp only [Op.toGo]
    omega
  | done session result =>
    obtain rfl := rejecting
    exact .inr rfl

/-- Between two calls of the client, an operation that fails closes its session. -/
theorem failsWithin_step {op : Registry.Op} (barred : Barred run number fault)
    (fails : (Op.plain op).Fails number fault) (can : run.state.registry.canStep op = true) :
    FailsWithin number fault (Op.plain op).toGo
      (run.state.ofRegistryMove (run.state.registry.step op)).progress := by
  obtain ⟨session, held⟩ := barred.session
  cases op with
  | onSession purpose caller inner =>
    cases purpose with
    | closing | eviction => exact (fails.elim id id).elim
    | request =>
      have quiet : ∀ call, inner.request? ≠ some (.call call) := by
        intro call waits
        simp [Registry.canStep, Registry.Op.request?, waits] at can
      rcases fails with publishes | ⟨rfl, rejects⟩
      · cases inner with
        | sending call => exact absurd rfl (quiet call)
        | _ => exact publishes.elim
      · simp only [Registry.step, held]
        cases waits : inner.request? with
        | none =>
          exact failsWithin_ofSessionMove (session.rejecting_step rejects waits)
            (session.shortens_step waits) (Nat.le_add_right _ _)
        | some request =>
          cases request with
          | call call => exact absurd waits (quiet call)
          | report status reason =>
            exact failsWithin_ofSessionMove (session.rejecting_reported rejects waits)
              (session.shortens_reported waits) (Nat.le_add_right _ _)
  | _ => exact (fails.elim id id).elim

/-- A call that is made has still to publish, or belongs to the teardown. -/
theorem fails_calling {purpose : Registry.Purpose} {caller : Nat} {inner : Session.Op}
    {call : ClientCall} (fails : (Op.plain (.onSession purpose caller inner)).Fails number fault)
    (waits : inner.request? = some (.call call)) :
    (Op.calling purpose caller inner (.begin call)).Fails number fault := by
  cases purpose with
  | closing | eviction => exact (fails.elim id id).elim
  | request =>
    rcases fails with publishes | ⟨rfl, rejects⟩
    · cases inner with
      | sending other =>
        obtain rfl := Session.Request.call.inj (Option.some.inj waits)
        exact .inl publishes
      | _ => exact publishes.elim
    · exact .inr ⟨rfl, rejects, waits⟩

/-- A client that was refused takes nothing that is to be published, and answers the calls of a teardown. -/
theorem failsWithin_client {caller : Nat} {inner : Session.Op} {call : Uplink.Op}
    {moved : Move Uplink Uplink.Op ClientAnswer} {station : Station} (stamp : String)
    (barred : Barred run number fault) (unauthorized : fault.isUnauthorized = true)
    (fails : (Op.calling .request caller inner call).Fails number fault)
    (held : run.state.stations[caller]? = some station)
    (moves : Uplink.Moves station.uplink call moved) :
    FailsWithin number fault (Op.calling .request caller inner call).toGo
      (run.state.ofCallMove stamp .request caller inner moved).progress := by
  obtain ⟨session, found⟩ := barred.session
  rcases fails with publishes | rejects
  · cases inner with
    | sending other =>
      obtain ⟨rfl, publishes⟩ := publishes
      obtain ⟨station', held', refused⟩ := barred.refused
      obtain rfl := Option.some.inj (held.symm.trans held')
      rcases publishing_of_moves refused.refusal publishes moves with
        ⟨uplink, later, rfl, publishes, nearer⟩ | ⟨uplink, rfl⟩
      · exact .inl ⟨_, rfl, .inl ⟨rfl, publishes⟩, nearer _⟩
      · refine .inl ⟨.plain (.onSession .request caller (.claim (.rejected fault))), ?_,
          .inr ⟨rfl, rfl⟩, ?_⟩
        · simp [ofCallMove, Registry.resume, found, Session.resume, ClientAnswer.outcome,
            unauthorized, Registry.ofSessionMove, ofRegistryMove]
        · cases call <;> simp [Op.toGo, Session.Op.toGo]
    | _ => exact publishes.elim
  · cases call with
    | begin call =>
      obtain ⟨rfl, rejects, waits⟩ := rejects
      obtain ⟨admitted, starts⟩ := Session.start_of_rejects rejects waits
      obtain ⟨uplink, same⟩ := starts station.uplink
      obtain rfl := eq_step_of_moves rfl rfl moves
      simp only [Uplink.step, same, ofCallMove, Registry.resume, found]
      exact failsWithin_ofSessionMove (session.rejecting_resume stamp _ rejects waits)
        (session.shortens_resume stamp waits admitted) (Nat.le_add_right _ _)
    | _ => exact rejects.elim

theorem failsWithin_of_moves (barred : Barred run number fault)
    (unauthorized : fault.isUnauthorized = true) (fails : op.Fails number fault)
    (moved : Moves run.state op notes move) : FailsWithin number fault op.toGo move.progress := by
  cases moved with
  | step can => exact failsWithin_step barred fails can
  | call waits => exact .inl ⟨_, rfl, fails_calling fails waits, Nat.lt_succ_self _⟩
  | @client purpose _ _ _ _ _ stamp held moves =>
    cases purpose with
    | closing | eviction => exact (fails.elim id id).elim
    | request => exact failsWithin_client stamp barred unauthorized fails held moves
  | provide | fail | attach | map => exact (fails.elim id id).elim

/-- An operation that fails can always take a step. -/
theorem onStep_of_fails (barred : Barred run number fault) (fails : op.Fails number fault)
    (stamp : String) : ∃ move notes, run.state.onStep stamp op = some (move, notes) := by
  obtain ⟨station, held, _⟩ := barred.refused
  cases op with
  | plain op =>
    cases op with
    | onSession purpose other inner =>
      simp only [onStep]
      split <;> exact ⟨_, _, rfl⟩
    | _ => exact (fails.elim id id).elim
  | calling purpose other inner call =>
    have own : other = number ∧ station.uplink.canStep call = true := by
      cases purpose with
      | closing | eviction => exact (fails.elim id id).elim
      | request =>
        rcases fails with publishes | rejects
        · cases inner with
          | sending sent =>
            refine ⟨publishes.1, ?_⟩
            have begun := publishes.2
            cases call <;> first | rfl | cases begun
          | _ => exact publishes.elim
        · cases call with
          | begin call => exact ⟨rejects.1, rfl⟩
          | _ => exact rejects.elim
    obtain ⟨rfl, can⟩ := own
    simp only [onStep, held, can, if_true]
    exact ⟨_, _, rfl⟩
  | attaching | mapping => exact (fails.elim id id).elim

theorem drives_fails (unauthorized : fault.isUnauthorized = true) :
    Drives (Barred · number fault) (Op.Fails number fault) (.session (.done (.error fault))) where
  keeps := fun _ event barred => barred_act barred event
  steps := fun _ _ stamp barred fails => onStep_of_fails barred fails stamp
  moves := fun _ _ _ _ barred fails moved => failsWithin_of_moves barred unauthorized fails moved

/-- Whoever is still to publish a message through a client that was refused ends with the fault of the
refusal. -/
theorem endsWith_of_publishes (barred : Barred run number fault)
    (unauthorized : fault.isUnauthorized = true)
    (held : run.members[member]? = some (.running op)) (publishes : op.Publishes number) :
    EndsWith run member (.session (.done (.error fault))) :=
  (drives_fails unauthorized).endsWith barred held (.inl publishes)

/-! ## Sends through a closed session -/

/-- Somebody has begun to send a message through the session with a number. -/
def Op.Sends (number : Nat) (message : Message) (op : Op) : Prop :=
  op = .plain (.onSession .request number (.begin (.send message)))

theorem drives_sends (number : Nat) (identity : Identity) (message : Message) :
    Drives (fun run => Closed run.state number ∧ Belongs run.state number identity)
      (Op.Sends number message) (.session (.done (.error (.sessionClosed identity.toText)))) where
  keeps := by
    rintro run event ⟨closed, belongs⟩
    have grows := grows_act run event
    exact ⟨closed.grows grows, belongs.grows grows⟩
  steps := by
    rintro run _ stamp _ rfl
    exact ⟨_, _, rfl⟩
  moves := by
    rintro run _ notes move ⟨⟨session, held, inactive⟩, belongs⟩ rfl moved
    obtain ⟨session', held', same⟩ := belongs
    obtain rfl := Option.some.inj (held.symm.trans held')
    right
    cases moved with
    | step can =>
      have refused : session.step (.begin (.send message)) =
          .done session (.done (.error (.sessionClosed identity.toText))) := by
        simp [Session.step, Session.start, inactive, Session.Command.refusal, Session.closedFault, same]
      simp only [Registry.step, held, Session.Op.request?, refused]
      rfl
    | call waits => cases waits

/-- Whoever begins to send a message through a closed session ends with the fault that says so. -/
theorem endsWith_of_closed (closed : Closed run.state number)
    {identity : Identity} (belongs : Belongs run.state number identity) (message : Message) :
    EndsWith (act run (.requests number (.send message))) run.members.length
      (.session (.done (.error (.sessionClosed identity.toText)))) := by
  have grows := grows_act run (.requests number (.send message))
  refine (drives_sends number identity message).endsWith ⟨closed.grows grows, belongs.grows grows⟩ ?_ rfl
  rw [act, launch, Crew.members_enter, if_pos rfl]

end Fleet

end DeviceGateway
