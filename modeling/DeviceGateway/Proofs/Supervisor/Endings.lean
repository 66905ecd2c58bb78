/-
# A supervisor ends one way and stays ended

Between two attempts a supervisor announces once why the earlier one was over.  It ends in one of three
ways, and what it announces then is announced once and is the last that it announces.  Nothing that
happens afterwards brings back a connection.

The induction is on the events of a run.  What a log says at its end, since the latest attempt, fits the
position of the supervisor; this is what the next step of the supervisor needs.
-/

import DeviceGateway.Proofs.Supervisor.Run

namespace DeviceGateway

namespace Uplink

namespace Supervisor

/-! ## The notes of an attempt -/

/-- The notice of an ending. -/
def Ending.notice : Ending → Note
  | cancelled => .announced .disabled .clientClose
  | refused => .announced .disconnected .expiredCredential
  | exhausted => .announced .disconnected .retryExpired

/-- Whether a note announces that there is no connection and no attempt to get one. -/
def Note.isFinal : Note → Bool
  | announced .disabled _ | announced .disconnected _ => true
  | _ => false

/-- What a note announces. -/
def Note.notice? : Note → Option (ConnectionStatus × StatusReason)
  | announced status reason => some (status, reason)
  | _ => none

/-- What is noted of an attempt while it goes on. -/
def Note.isGoingOn : Note → Bool
  | met .published | met .accepted | announced .connected .connectionOk => true
  | _ => false

/-- An attempt goes on. -/
def GoesOn (notes : List Note) : Prop := ∀ note ∈ notes, note.isGoingOn = true

/-- An attempt is over for a reason. -/
def IsOver (reason : StatusReason) (notes : List Note) : Prop :=
  ∃ before event, notes = before ++ [.met event] ∧ GoesOn before ∧ event.endsFor? = some reason

/-- An attempt is over, and the reason for which it is was announced. -/
def IsRetried (notes : List Note) : Prop :=
  ∃ before event reason, notes = before ++ [.met event, .announced .disconnectedRetrying reason] ∧
    GoesOn before ∧ event.endsFor? = some reason

/-- Something holds of the notes since the latest attempt. -/
def Lately (holds : List Note → Prop) (log : List Note) : Prop :=
  ∀ earlier notes, log = earlier ++ .attempted :: notes → .attempted ∉ notes → holds notes

variable {holds grown : List Note → Prop} {log notes : List Note} {reason : StatusReason}

theorem GoesOn.append (before : GoesOn log) (more : GoesOn notes) : GoesOn (log ++ notes) := by
  intro note member
  rcases List.mem_append.1 member with member | member
  · exact before note member
  · exact more note member

theorem lately_fresh (holds : List Note → Prop) : Lately holds [] := by
  intro earlier notes split
  simp at split

/-- A new attempt has no notes yet. -/
theorem lately_attempted (log : List Note) : Lately GoesOn (log ++ [.attempted]) := by
  intro earlier notes split absent
  rcases List.eq_nil_or_concat notes with rfl | ⟨before, last, rfl⟩
  · exact fun _ member => by cases member
  · have same : log ++ [.attempted] = (earlier ++ .attempted :: before) ++ [last] := by simpa using split
    have last := List.singleton_inj.1 (List.append_inj' same rfl).2
    simp [← last] at absent

/-- What is noted later belongs to the latest attempt. -/
theorem Lately.append (lately : Lately holds log) (quiet : .attempted ∉ notes)
    (grows : ∀ before, holds before → grown (before ++ notes)) : Lately grown (log ++ notes) := by
  intro earlier whole split absent
  rcases List.append_eq_append_iff.1 split with ⟨middle, rfl, rest⟩ | ⟨middle, rfl, rest⟩
  · exact absurd (by simp [rest]) quiet
  · cases middle with
    | nil =>
      rw [List.nil_append] at rest
      exact absurd (by simp [← rest]) quiet
    | cons note middle =>
      obtain ⟨rfl, rfl⟩ := List.cons.inj rest
      exact grows middle (lately earlier middle rfl fun member => absent (by simp [member]))

/-- Between two attempts in a row the earlier one is over and that is announced. -/
def Spaced (log : List Note) : Prop :=
  ∀ earlier middle later, log = earlier ++ .attempted :: (middle ++ .attempted :: later) →
    .attempted ∉ middle → IsRetried middle

theorem spaced_fresh : Spaced [] := by
  intro earlier middle later split
  simp at split

theorem Spaced.append (spaced : Spaced log) (quiet : .attempted ∉ notes) : Spaced (log ++ notes) := by
  intro earlier middle later split
  have same : log ++ notes = (earlier ++ .attempted :: middle) ++ .attempted :: later := by
    simpa using split
  rcases List.append_eq_append_iff.1 same with ⟨between, _, rest⟩ | ⟨between, whole, rest⟩
  · exact absurd (by simp [rest]) quiet
  · cases between with
    | nil =>
      rw [List.nil_append] at rest
      exact absurd (by simp [← rest]) quiet
    | cons note between =>
      obtain ⟨rfl, rfl⟩ := List.cons.inj rest
      exact spaced earlier middle between (by simpa using whole)

theorem Spaced.attempted (spaced : Spaced log) (lately : Lately IsRetried log) :
    Spaced (log ++ [.attempted]) := by
  intro earlier middle later split absent
  rcases List.eq_nil_or_concat later with rfl | ⟨before, last, rfl⟩
  · have same : log ++ [.attempted] = (earlier ++ .attempted :: middle) ++ [.attempted] := by
      simpa using split
    exact lately earlier middle (List.append_inj' same rfl).1 absent
  · have same : log ++ [.attempted] =
        (earlier ++ .attempted :: (middle ++ .attempted :: before)) ++ [last] := by simpa using split
    exact spaced earlier middle before (List.append_inj' same rfl).1 absent

/-! ## Positions and what was noted -/

/-- What an ending leaves behind. -/
def Ending.Leaves (supervisor : Supervisor) (uplink : Uplink) (earlier : List Note) : Ending → Prop
  | cancelled =>
    uplink.isClosed = true ∧ uplink.phase = .disconnected ∧ uplink.gate.refusal = none
  | refused =>
    -- The hub has refused the credentials when the last attempt was over.
    ∃ before failure text, earlier = before ++ [.met (.failed failure text)] ∧
      failure.isFatal = true ∧ uplink.phase = .failed text ∧
        uplink.gate.refusal = some (.unauthorized uplink.identity.toText text)
  | exhausted =>
    uplink.gate.refusal = none ∧ ∃ text, supervisor.Exhausts text ∧ uplink.phase = .failed text

/-- A supervisor has ended, and has announced that once, at last. -/
structure HasEnded (supervisor : Supervisor) (uplink : Uplink) (log : List Note) (ending : Ending) :
    Prop where
  connection : uplink.gate.connection = none
  healthy : uplink.gate.healthy = false
  left : ∃ earlier, log = earlier ++ [ending.notice] ∧ (∀ note ∈ earlier, note.isFinal = false) ∧
    ending.Leaves supervisor uplink earlier

/-- What was noted fits a position. -/
def Fits (supervisor : Supervisor) (uplink : Uplink) (log : List Note) : Position → Prop
  | .ready | .pausing _ => Lately IsRetried log
  | .attempting _ => Lately GoesOn log
  | .lost _ reason fatal =>
    (uplink.isClosed = true ∨ Lately (IsOver reason) log) ∧
      (fatal = true → reason = .expiredCredential ∧
        ∃ before failure text, log = before ++ [.met (.failed failure text)] ∧
          failure.isFatal = true ∧ uplink.gate.lastError = some text)
  | .ended ending => HasEnded supervisor uplink log ending

/-- What every run keeps of a supervisor that follows a policy. -/
structure InOrder (identity : Identity) (policy : Retry.Policy) (run : Run) : Prop where
  identity : run.client.state.identity = identity
  limits : SameLimits (new policy) run.supervisor
  /-- The notices of the client are those that were noted. -/
  announced : run.client.state.announced = run.log.filterMap Note.notice?
  spaced : Spaced run.log
  running : run.supervisor.hasEnded = false →
    (∀ note ∈ run.log, note.isFinal = false) ∧ run.client.state.gate.refusal = none
  fits : Fits run.supervisor run.client.state run.log run.supervisor.position

variable {supervisor next : Supervisor} {before uplink after : Uplink} {position : Position}

/-! ## What the calls do not disturb -/

theorem isClosed_aside (aside : Aside before after) (closed : before.isClosed = true) :
    after.isClosed = true := by
  unfold isClosed at closed ⊢
  rcases aside.gate with same | shut
  · rwa [same]
  · rw [shut]
    rfl

theorem refusal_aside (aside : Aside before after) :
    after.gate.refusal = before.gate.refusal := by
  rcases aside.gate with same | shut
  · rw [same]
  · rw [shut]
    rfl

theorem lastError_aside (aside : Aside before after) :
    after.gate.lastError = before.gate.lastError := by
  rcases aside.gate with same | shut
  · rw [same]
  · rw [shut]
    rfl

theorem Ending.Leaves.aside {ending : Ending} (aside : Aside before after)
    (leaves : ending.Leaves supervisor before log) : ending.Leaves supervisor after log := by
  cases ending with
  | cancelled =>
    obtain ⟨closed, phase, refusal⟩ := leaves
    exact ⟨isClosed_aside aside closed, aside.phase.trans phase,
      (refusal_aside aside).trans refusal⟩
  | refused =>
    obtain ⟨earlier, failure, text, split, fatal, phase, refusal⟩ := leaves
    refine ⟨earlier, failure, text, split, fatal, aside.phase.trans phase, ?_⟩
    rw [refusal_aside aside, aside.identity, refusal]
  | exhausted =>
    obtain ⟨refusal, text, why, phase⟩ := leaves
    exact ⟨(refusal_aside aside).trans refusal, text, why, aside.phase.trans phase⟩

theorem HasEnded.aside {ending : Ending} (aside : Aside before after)
    (ended : HasEnded supervisor before log ending) : HasEnded supervisor after log ending where
  connection := by
    rcases aside.gate with same | shut
    · rw [same, ended.connection]
    · rw [shut]
      rfl
  healthy := by
    rcases aside.gate with same | shut
    · rw [same, ended.healthy]
    · rw [shut]
      rfl
  left := by
    obtain ⟨earlier, split, silent, leaves⟩ := ended.left
    exact ⟨earlier, split, silent, leaves.aside aside⟩

theorem Fits.aside (aside : Aside before after) (fits : Fits supervisor before log position) :
    Fits supervisor after log position := by
  cases position with
  | lost cameUp reason fatal =>
    obtain ⟨finished, refusal⟩ := fits
    refine ⟨finished.imp_left (isClosed_aside aside), fun incurable => ?_⟩
    obtain ⟨expired, earlier, failure, text, split, fatal, last⟩ := refusal incurable
    exact ⟨expired, earlier, failure, text, split, fatal, (lastError_aside aside).trans last⟩
  | ended ending => exact HasEnded.aside aside fits
  | ready | attempting cameUp | pausing interval => exact fits

/-! ## Steps -/

theorem announced_steps (steps : Steps uplink supervisor next notes after) :
    after.announced = uplink.announced ++ notes.filterMap Note.notice? := by
  cases steps with
  | lose lost finished gone identity silent => rw [silent]; exact (List.append_nil _).symm
  | accept | cancel | refuse | exhaust | retry => rfl
  | _ => exact (List.append_nil _).symm

theorem identity_steps (steps : Steps uplink supervisor next notes after) :
    after.identity = uplink.identity := by
  cases steps <;> first | assumption | rfl

/-- Only an ending announces something final, and only one records a refusal. -/
theorem running_steps (steps : Steps uplink supervisor next notes after)
    (running : next.hasEnded = false) :
    (supervisor.hasEnded = false ∧ ∀ note ∈ notes, note.isFinal = false) ∧
      after.gate.refusal = uplink.gate.refusal := by
  cases steps with
  | stay same =>
    subst same
    exact ⟨⟨running, by simp⟩, rfl⟩
  | cancel closed before after | refuse before after | exhaust before why after =>
    simp [hasEnded, after] at running
  | lose before finished after identity silent refusal =>
    exact ⟨⟨by simp [hasEnded, before], by simp [Note.isFinal]⟩, refusal⟩
  | wake before | attempt before | publish before | accept before | leave closed before
  | retry opened before =>
    exact ⟨⟨by simp [hasEnded, before], by simp [Note.isFinal]⟩, rfl⟩

theorem spaced_steps (steps : Steps uplink supervisor next notes after) (spaced : Spaced log)
    (fits : Fits supervisor uplink log supervisor.position) : Spaced (log ++ notes) := by
  cases steps with
  | attempt before =>
    rw [before] at fits
    exact spaced.attempted fits
  | _ => exact spaced.append (by simp)

theorem isFatal_of_isRefusal {event : ConnectionEvent} (refusal : event.isRefusal = true) :
    ∃ failure text, event = .failed failure text ∧ failure.isFatal = true ∧
      event.endsFor? = some .expiredCredential := by
  cases event with
  | failed failure text =>
    refine ⟨failure, text, rfl, refusal, ?_⟩
    cases failure with
    | refused code => cases code <;> first | rfl | cases refusal
    | _ => cases refusal
  | _ => cases refusal

/-- What was noted fits the position after a step, if it did before and nothing final was noted as long
as the supervisor had not ended. -/
theorem fits_steps (steps : Steps uplink supervisor next notes after)
    (running : supervisor.hasEnded = false →
      (∀ note ∈ log, note.isFinal = false) ∧ uplink.gate.refusal = none)
    (fits : Fits supervisor uplink log supervisor.position) :
    Fits next after (log ++ notes) next.position := by
  cases steps with
  | stay same =>
    subst same
    simpa using fits
  | wake before after =>
    rw [before] at fits
    rw [after]
    simpa [Fits] using fits
  | attempt before after =>
    rw [after]
    exact lately_attempted log
  | publish before after =>
    rw [before] at fits
    rw [after]
    refine Lately.append fits (by simp) fun earlier goesOn => goesOn.append ?_
    simp [GoesOn, Note.isGoingOn]
  | accept before after =>
    rw [before] at fits
    rw [after]
    refine Lately.append fits (by simp) fun earlier goesOn => goesOn.append ?_
    simp [GoesOn, Note.isGoingOn]
  | lose before finished after identity silent refusal last =>
    rw [before] at fits
    rw [after]
    refine ⟨.inr (Lately.append fits (by simp) fun earlier goesOn => ⟨earlier, _, rfl, goesOn, finished⟩),
      fun incurable => ?_⟩
    obtain ⟨failure, text, rfl, fatal, expired⟩ := isFatal_of_isRefusal incurable
    rw [finished] at expired
    exact ⟨Option.some.inj expired, log, failure, text, rfl, fatal, last failure text rfl⟩
  | leave closed before after =>
    rw [after]
    exact ⟨.inl closed, nofun⟩
  | cancel closed before after =>
    obtain ⟨silent, refusal⟩ := running before
    rw [after]
    exact ⟨rfl, rfl, log, rfl, silent, closed, rfl, refusal⟩
  | refuse before after =>
    obtain ⟨silent, _⟩ := running (by simp [hasEnded, before])
    rw [before] at fits
    obtain ⟨rfl, earlier, failure, text, split, fatal, last⟩ := fits.2 rfl
    rw [after]
    refine ⟨rfl, rfl, log, rfl, silent, earlier, failure, text, split, fatal, ?_⟩
    simp [acceptRefusal, last, Uplink.refuse, enter, announce, Gate.refuse]
  | exhaust before why after =>
    obtain ⟨silent, refusal⟩ := running (by simp [hasEnded, before])
    rw [after]
    exact ⟨rfl, rfl, log, rfl, silent, refusal, _, why, rfl⟩
  | retry opened before after =>
    rw [before] at fits
    have finished := fits.1.resolve_left (by simp [opened])
    rw [after]
    refine Lately.append finished (by simp) ?_
    rintro _ ⟨earlier, event, rfl, goesOn, ends⟩
    exact ⟨earlier, event, _, by simp, goesOn, ends⟩

/-! ## Runs -/

section

variable {identity : Identity} {policy : Retry.Policy} {run : Run}

theorem inOrder_fresh (identity : Identity) (settings : Settings.Hub)
    (router : Topic.Router Destination) (policy : Retry.Policy) :
    InOrder identity policy
      { client := { state := fresh identity settings router }, supervisor := new policy } where
  identity := rfl
  limits := .refl _
  announced := rfl
  spaced := spaced_fresh
  running := fun _ => ⟨nofun, rfl⟩
  fits := lately_fresh IsRetried

theorem inOrder_act (inOrder : InOrder identity policy run) (event : Event) :
    InOrder identity policy (act run event) := by
  cases event with
  | client event =>
    simp only [act]
    split
    case isFalse => exact inOrder
    case isTrue foreign =>
      have aside := aside_act run.client foreign
      refine ⟨aside.identity.trans inOrder.identity, inOrder.limits,
        aside.announced.trans inOrder.announced, inOrder.spaced, fun running => ?_,
        inOrder.fits.aside aside⟩
      obtain ⟨silent, refusal⟩ := inOrder.running running
      exact ⟨silent, (refusal_aside aside).trans refusal⟩
  | supervisor input =>
    have steps := steps_step run.supervisor run.client.state input
    refine ⟨(identity_steps steps).trans inOrder.identity,
      inOrder.limits.trans (sameLimits_step ..), ?_, spaced_steps steps inOrder.spaced inOrder.fits,
      fun running => ?_, fits_steps steps inOrder.running inOrder.fits⟩
    · rw [act, List.filterMap_append, ← inOrder.announced]
      exact announced_steps steps
    · obtain ⟨⟨before, silent⟩, same⟩ := running_steps steps running
      obtain ⟨silentBefore, refusal⟩ := inOrder.running before
      refine ⟨fun note member => ?_, same.trans refusal⟩
      rcases List.mem_append.1 member with member | member
      · exact silentBefore note member
      · exact silent note member

theorem inOrder_run (identity : Identity) (settings : Settings.Hub)
    (router : Topic.Router Destination) (policy : Retry.Policy) (events : List Event) :
    InOrder identity policy (Supervisor.run (fresh identity settings router) policy events) := by
  apply List.foldlRecOn (motive := InOrder identity policy)
  · exact inOrder_fresh identity settings router policy
  · intro before inOrder event _
    exact inOrder_act inOrder event

/-- What does not change any more once a supervisor has ended. -/
structure Rests (before after : Run) : Prop where
  supervisor : after.supervisor = before.supervisor
  log : after.log = before.log
  phase : after.client.state.phase = before.client.state.phase
  refusal : after.client.state.gate.refusal = before.client.state.gate.refusal

theorem Rests.refl (run : Run) : Rests run run := ⟨rfl, rfl, rfl, rfl⟩

theorem Rests.trans {first second third : Run} (early : Rests first second)
    (late : Rests second third) : Rests first third where
  supervisor := late.supervisor.trans early.supervisor
  log := late.log.trans early.log
  phase := late.phase.trans early.phase
  refusal := late.refusal.trans early.refusal

theorem rests_act {ending : Ending} (ended : run.supervisor.position = .ended ending)
    (event : Event) : Rests run (act run event) := by
  cases event with
  | client event =>
    simp only [act]
    split
    case isTrue foreign =>
      have aside := aside_act run.client foreign
      exact ⟨rfl, rfl, aside.phase, refusal_aside aside⟩
    case isFalse => exact .refl run
  | supervisor input =>
    have still : run.supervisor.step run.client.state input = (run.client.state, run.supervisor) :=
      step_of_hasEnded (by simp [hasEnded, ended]) _ input
    have silent : run.supervisor.notesOf run.client.state input = [] := by
      rw [notesOf_eq_news (by simp [ended]) (by rw [still]), still]
      exact news_eq_nil rfl
    constructor
    case log => simp [act, silent]
    all_goals simp [act, still]

theorem rests_onward {ending : Ending} (ended : run.supervisor.position = .ended ending)
    (events : List Event) : Rests run (onward run events) := by
  induction events generalizing run with
  | nil => exact .refl run
  | cons event events ih =>
    have first := rests_act ended event
    have stays : (act run event).supervisor.position = .ended ending := by
      rw [first.supervisor, ended]
    exact first.trans (ih stays)

/-- Two moves of its own end a supervisor whose client is closed. -/
theorem cancelled_of_isClosed (closed : run.client.state.isClosed = true)
    (running : run.supervisor.hasEnded = false) (elapsed interval elapsed' interval' : Nat) :
    (onward run [.supervisor (.proceed elapsed interval),
      .supervisor (.proceed elapsed' interval')]).supervisor.position = .ended .cancelled := by
  simp only [onward, List.foldl_cons, List.foldl_nil, act]
  cases position : run.supervisor.position with
  | ended ending => simp [hasEnded, position] at running
  | attempting cameUp =>
    have still : run.client.state.disconnected.isClosed = true := closed
    simp [step, proceed, position, closed, decide, still, cancel]
  | ready | pausing interval => simp [step, proceed, position, closed, cancel]
  | lost cameUp reason fatal => simp [step, proceed, position, decide, closed, cancel]

end

/-- What it means that a supervisor which follows a policy ends once. -/
structure EndsOnce (policy : Retry.Policy) (run : Run) : Prop where
  /-- What the client announces is what was noted. -/
  announced : run.client.state.announced = run.log.filterMap Note.notice?
  /-- Between two attempts in a row, the connection of the earlier one came and went in some way, and
  at the end it was announced once why there is a retry. -/
  retried : ∀ earlier middle later,
    run.log = earlier ++ .attempted :: (middle ++ .attempted :: later) → .attempted ∉ middle →
      ∃ before event reason, middle = before ++ [.met event, .announced .disconnectedRetrying reason] ∧
        event.endsFor? = some reason ∧ ∀ note ∈ before,
          note = .met .published ∨ note = .met .accepted ∨ note = .announced .connected .connectionOk
  /-- No ending is announced before it. -/
  running : run.supervisor.hasEnded = false → ∀ note ∈ run.log, note.isFinal = false
  /-- The client was closed. -/
  cancelled : run.supervisor.position = .ended .cancelled →
    run.client.state.isClosed = true ∧ run.client.state.phase = .disconnected ∧
      run.client.state.gate.refusal = none
  /-- The hub refused the credentials, and why it did is recorded. -/
  refused : run.supervisor.position = .ended .refused →
    ∃ earlier failure text,
      run.log = earlier ++ [.met (.failed failure text), .announced .disconnected .expiredCredential] ∧
        failure.isFatal = true ∧ run.client.state.phase = .failed text ∧
          run.client.state.gate.refusal =
            some (.unauthorized run.client.state.identity.toText text)
  /-- There were too many failures in a row, or too much time has passed. -/
  exhausted : run.supervisor.position = .ended .exhausted →
    run.client.state.gate.refusal = none ∧ ∃ text, run.client.state.phase = .failed text ∧
      (policy.allowsAttempt run.supervisor.attempts = false ∧
          text = attemptsExhausted (policy.maxAttempts.getD 0) ∨
        policy.maxElapsedTime ≠ none ∧ text = timeExhausted)
  /-- Every ending is announced once, at last, and leaves no connection. -/
  ended : ∀ ending, run.supervisor.position = .ended ending →
    (∃ earlier, run.log = earlier ++ [ending.notice] ∧ ∀ note ∈ earlier, note.isFinal = false) ∧
      run.client.state.gate.connection = none ∧ run.client.state.gate.healthy = false
  /-- Until it ends, it goes from attempt to attempt. -/
  movesOn : MovesOn run

theorem InOrder.hasEnded {identity : Identity} {policy : Retry.Policy} {run : Run} {ending : Ending}
    (inOrder : InOrder identity policy run) (ended : run.supervisor.position = .ended ending) :
    HasEnded run.supervisor run.client.state run.log ending := by
  have fits := inOrder.fits
  rwa [ended] at fits

theorem Note.isGoingOn_iff {note : Note} : note.isGoingOn = true ↔
    note = .met .published ∨ note = .met .accepted ∨ note = .announced .connected .connectionOk := by
  unfold isGoingOn
  split <;> simp_all

theorem InOrder.endsOnce {identity : Identity} {policy : Retry.Policy} {run : Run}
    (inOrder : InOrder identity policy run) : EndsOnce policy run where
  announced := inOrder.announced
  retried := by
    intro earlier middle later split absent
    obtain ⟨before, event, reason, rfl, goesOn, finished⟩ := inOrder.spaced earlier middle later split absent
    exact ⟨before, event, reason, rfl, finished, fun note member => Note.isGoingOn_iff.1 (goesOn note member)⟩
  running := fun running => (inOrder.running running).1
  cancelled := by
    intro ended
    obtain ⟨earlier, split, silent, leaves⟩ := (inOrder.hasEnded ended).left
    exact leaves
  refused := by
    intro ended
    obtain ⟨earlier, split, silent, before, failure, text, rfl, leaves⟩ := (inOrder.hasEnded ended).left
    exact ⟨before, failure, text, by simpa [Ending.notice] using split, leaves⟩
  exhausted := by
    intro ended
    obtain ⟨earlier, split, silent, refusal, text, why, phase⟩ := (inOrder.hasEnded ended).left
    refine ⟨refusal, text, phase, ?_⟩
    have same : run.supervisor.policy = policy := inOrder.limits.policy
    have limit := inOrder.limits.maxElapsed
    rcases why with ⟨many, rfl⟩ | ⟨limited, rfl⟩
    · exact .inl ⟨by rwa [same] at many, by rw [same]⟩
    · refine .inr ⟨fun unlimited => limited ?_, rfl⟩
      simp [limit, new, Retry.Backoff.ofPolicy, unlimited]
  ended := by
    intro ending ended
    have whole := inOrder.hasEnded ended
    obtain ⟨earlier, split, silent, leaves⟩ := whole.left
    exact ⟨⟨earlier, split, silent⟩, whole.connection, whole.healthy⟩
  movesOn := movesOn run

/-- Whatever happens on the connections, whenever the client is closed and whichever calls are under
way, a supervisor goes from attempt to attempt until it ends, which it does at most once and in one way,
and is not seen again afterwards.  One whose client is closed ends after two moves of its own. -/
theorem endsOnce_run (identity : Identity) (settings : Settings.Hub)
    (router : Topic.Router Destination) (policy : Retry.Policy) (events : List Event) :
    EndsOnce policy (run (fresh identity settings router) policy events) ∧
      (∀ ending more,
        (run (fresh identity settings router) policy events).supervisor.position = .ended ending →
          Rests (run (fresh identity settings router) policy events)
            (run (fresh identity settings router) policy (events ++ more))) ∧
      ∀ elapsed interval elapsed' interval',
        (run (fresh identity settings router) policy events).client.state.isClosed = true →
        (run (fresh identity settings router) policy events).supervisor.hasEnded = false →
          (run (fresh identity settings router) policy (events ++
            [.supervisor (.proceed elapsed interval),
              .supervisor (.proceed elapsed' interval')])).supervisor.position =
                .ended .cancelled := by
  refine ⟨(inOrder_run identity settings router policy events).endsOnce, ?_, ?_⟩
  · intro ending more ended
    rw [run_append]
    exact rests_onward ended more
  · intro elapsed interval elapsed' interval' closed running
    rw [run_append]
    exact cancelled_of_isClosed closed running ..

end Supervisor

end Uplink

end DeviceGateway
