/-
# The limit of attempts

A policy may limit how many attempts in a row bring no connection.  A supervisor keeps count of them, and
begins anew with every attempt that brings one; the log says the same without the count, since it notes
every attempt and every connection that came up.

The induction is on the events of a run.  The count agrees with the log wherever a decision depends on it:
after an attempt that brought a connection the old count stands until the supervisor decides.
-/

import DeviceGateway.Proofs.Supervisor.Endings

namespace DeviceGateway

/-! ## Policies and intervals -/

namespace Retry

/-- A number of attempts is not beyond the limit of a policy. -/
def Policy.Admits (policy : Policy) (attempts : Nat) : Prop :=
  ∀ greatest, policy.maxAttempts = some greatest → 0 < greatest → attempts ≤ greatest

theorem Policy.allowsAttempt_zero (policy : Policy) : policy.allowsAttempt 0 = true := by
  unfold allowsAttempt
  split
  case h_1 => rfl
  case h_2 greatest _ => cases greatest <;> simp

theorem Policy.admits_succ {policy : Policy} {attempts : Nat}
    (allowed : policy.allowsAttempt attempts = true) : policy.Admits (attempts + 1) := by
  intro greatest limited positive
  have less : attempts < greatest := by
    simpa [allowsAttempt, limited, Nat.ne_of_gt positive] using allowed
  exact less

theorem Policy.admits_of_le {policy : Policy} {fewer attempts : Nat} (less : fewer ≤ attempts)
    (admitted : policy.Admits attempts) : policy.Admits fewer :=
  fun greatest limited positive => Nat.le_trans less (admitted greatest limited positive)

/-- Within a limit, no further attempt is allowed just when there is a limit and it is reached. -/
theorem Policy.allowsAttempt_eq_false_iff {policy : Policy} {attempts : Nat}
    (admitted : policy.Admits attempts) : policy.allowsAttempt attempts = false ↔
      policy.maxAttempts.getD 0 ≠ 0 ∧ attempts = policy.maxAttempts.getD 0 := by
  cases limited : policy.maxAttempts with
  | none => simp [allowsAttempt, limited]
  | some greatest =>
    have most := admitted greatest limited
    simp only [allowsAttempt, limited, Bool.or_eq_false_iff, beq_eq_false_iff_ne,
      decide_eq_false_iff_not, Option.getD_some]
    omega

theorem Backoff.reset_nextOf (backoff : Backoff) (elapsed interval : Nat) :
    (backoff.nextOf elapsed interval).2.reset = backoff.reset := by
  unfold nextOf
  split
  case h_1 => rfl
  case h_2 => split <;> [rfl; (split <;> rfl)]

end Retry

namespace Uplink.Supervisor

variable {uplink after : Uplink} {supervisor : Supervisor} {log notes : List Note}
  {policy : Retry.Policy} {input : Input} {cameUp fatal : Bool} {reason : StatusReason}

/-! ## What a log says of the attempts -/

/-- How many attempts in a row brought no connection, since the latest one that did or since the
beginning. -/
def inVain (log : List Note) : Nat :=
  (log.reverse.takeWhile fun note => !note == .met .accepted).count .attempted

theorem inVain_append (quiet : .met .accepted ∉ notes) :
    inVain (log ++ notes) = inVain log + notes.count .attempted := by
  have late : ∀ note ∈ notes.reverse, (!note == .met .accepted) = true := by
    intro note member
    have apart : note ≠ .met .accepted := fun same => quiet (same ▸ List.mem_reverse.1 member)
    simpa using apart
  rw [inVain, List.reverse_append, List.takeWhile_append_of_pos late, List.count_append,
    List.count_reverse, Nat.add_comm, inVain]

/-- What is neither an attempt nor a connection that came up does not matter. -/
theorem inVain_aside (quiet : .met .accepted ∉ notes) (none : .attempted ∉ notes) :
    inVain (log ++ notes) = inVain log := by
  rw [inVain_append quiet, List.count_eq_zero_of_not_mem none, Nat.add_zero]

theorem inVain_accepted (quiet : .met .accepted ∉ notes) :
    inVain (log ++ .met .accepted :: notes) = notes.count .attempted := by
  have fresh : inVain (log ++ [.met .accepted]) = 0 := by simp [inVain]
  rw [List.append_cons, inVain_append quiet, fresh, Nat.zero_add]

/-! ## How a step counts -/

/-- The settings of the intervals stay as they are, whatever the next interval is. -/
theorem reset_step (supervisor : Supervisor) (uplink : Uplink) (input : Input) :
    (supervisor.step uplink input).2.backoff.reset = supervisor.backoff.reset := by
  cases input with
  | proceed elapsed interval =>
    simp only [step, proceed]
    split
    case h_3 cameUp reason fatal _ =>
      have recounted : (supervisor.recount cameUp).backoff.reset = supervisor.backoff.reset := by
        unfold recount
        split <;> rfl
      have advanced := Retry.Backoff.reset_nextOf (supervisor.recount cameUp).backoff elapsed interval
      rw [← recounted]
      unfold decide pause
      split <;> [rfl; skip]
      split <;> [rfl; skip]
      split <;> [skip; rfl]
      split <;> (rename_i taken; rw [taken] at advanced; exact advanced)
    case h_5 => rfl
    all_goals split <;> rfl
  | event event =>
    simp only [step]
    split
    case h_1 => cases event <;> rfl
    case h_2 => rfl
  | timeUp =>
    simp only [step]
    split <;> rfl

theorem attempts_decide (supervisor : Supervisor) (uplink : Uplink) (reason : StatusReason)
    (fatal : Bool) (elapsed interval : Nat) :
    (supervisor.decide uplink reason fatal elapsed interval).2.attempts = supervisor.attempts := by
  unfold decide pause
  split <;> [rfl; skip]
  split <;> [rfl; skip]
  split <;> [skip; rfl]
  split <;> rfl

theorem attempts_recount (supervisor : Supervisor) (cameUp : Bool) :
    (supervisor.recount cameUp).attempts = if cameUp then 0 else supervisor.attempts := by
  cases cameUp <;> rfl

/-- An attempt is counted as it begins, and those that brought no connection are counted anew when the
connection of one that did is gone; nothing else changes the count. -/
theorem attempts_step (supervisor : Supervisor) (uplink : Uplink) (input : Input) :
    (supervisor.step uplink input).2.attempts =
      match supervisor.position, (supervisor.step uplink input).2.position with
      | .ready, .attempting _ => supervisor.attempts + 1
      | .lost _ _ _, .lost _ _ _ => supervisor.attempts
      | .lost cameUp _ _, _ => if cameUp then 0 else supervisor.attempts
      | _, _ => supervisor.attempts := by
  cases input with
  | proceed elapsed interval =>
    simp only [step, proceed]
    cases position : supervisor.position with
    | ready => cases closed : uplink.isClosed <;> simp [cancel]
    | attempting cameUp => cases closed : uplink.isClosed <;> simp
    | pausing pause => cases closed : uplink.isClosed <;> simp [cancel]
    | ended ending => rfl
    | lost cameUp reason fatal =>
      have decided := decision_decide (supervisor.recount cameUp) uplink reason fatal elapsed interval
      simp only [attempts_decide, attempts_recount]
      cases decided with
      | cancel closed after | refuse opened refused after | exhaust opened curable why after
      | retry opened curable allowed taken after => simp only [after]
  | event event =>
    simp only [step]
    cases position : supervisor.position with
    | attempting cameUp => cases event <;> simp [observe]
    | _ => simp [position]
  | timeUp =>
    simp only [step]
    cases position : supervisor.position <;> simp [position]

/-- Once a connection is gone, the supervisor decides with its next move, and waits until then. -/
theorem decision_step (lost : supervisor.position = .lost cameUp reason fatal) (input : Input) :
    (supervisor.step uplink input).2.position = .lost cameUp reason fatal ∨ ∃ pause,
      Decision uplink fatal pause (supervisor.recount cameUp) (supervisor.step uplink input).2 := by
  cases input with
  | proceed elapsed interval =>
    right
    rw [step_of_lost lost]
    exact ⟨_, decision_decide ..⟩
  | event event | timeUp =>
    left
    simp only [step, lost]

/-! ## What every run keeps -/

/-- The latest attempt is over with what happened on its connection. -/
def IsFinished (log : List Note) : Prop :=
  ∃ earlier event why, log = earlier ++ [.met event] ∧ event.endsFor? = some why

/-- The latest attempt is over, and the supervisor has given up. -/
def IsGivenUp (log : List Note) : Prop :=
  ∃ earlier, log = earlier ++ [.announced .disconnected .retryExpired] ∧ IsFinished earlier

/-- What the count says of the log at a position. -/
def Counted (policy : Retry.Policy) (uplink : Uplink) (log : List Note) (attempts : Nat) :
    Position → Prop
  | .ready | .pausing _ => inVain log = attempts ∧ policy.allowsAttempt attempts = true
  | .attempting cameUp => inVain log = (if cameUp then 0 else attempts) ∧ policy.Admits attempts
  | .lost cameUp _ _ =>
    inVain log = (if cameUp then 0 else attempts) ∧ policy.Admits attempts ∧
      (uplink.isClosed = true ∨ IsFinished log)
  | .ended ending =>
    inVain log ≤ attempts ∧ policy.Admits attempts ∧
      (ending = .exhausted → inVain log = attempts ∧ IsGivenUp log)

variable {attempts : Nat} {position : Position}

theorem Counted.admits (counted : Counted policy uplink log attempts position) :
    policy.Admits attempts ∧ inVain log ≤ attempts := by
  have least : ∀ cameUp, (if cameUp = true then 0 else attempts) ≤ attempts := by
    intro cameUp
    cases cameUp <;> simp
  cases position with
  | ready | pausing interval =>
    obtain ⟨same, allowed⟩ := counted
    exact ⟨Retry.Policy.admits_of_le (Nat.le_succ _) (Retry.Policy.admits_succ allowed), Nat.le_of_eq same⟩
  | attempting cameUp =>
    obtain ⟨same, admitted⟩ := counted
    exact ⟨admitted, same ▸ least cameUp⟩
  | lost cameUp reason fatal =>
    obtain ⟨same, admitted, _⟩ := counted
    exact ⟨admitted, same ▸ least cameUp⟩
  | ended ending =>
    obtain ⟨less, admitted, _⟩ := counted
    exact ⟨admitted, less⟩

theorem Counted.aside (aside : Aside uplink after)
    (counted : Counted policy uplink log attempts position) :
    Counted policy after log attempts position := by
  cases position with
  | lost cameUp reason fatal =>
    obtain ⟨same, admitted, finished⟩ := counted
    exact ⟨same, admitted, finished.imp_left (isClosed_aside aside)⟩
  | ready | attempting cameUp | pausing interval | ended ending => exact counted

/-- The count that a decision is made with agrees with the log. -/
theorem Counted.recounts (counted : Counted policy uplink log attempts (.lost cameUp reason fatal)) :
    inVain log = (if cameUp then 0 else attempts) ∧
      policy.Admits (if cameUp then 0 else attempts) ∧ (uplink.isClosed = true ∨ IsFinished log) := by
  obtain ⟨admitted, least⟩ := counted.admits
  obtain ⟨same, _, finished⟩ := counted
  exact ⟨same, Retry.Policy.admits_of_le (same ▸ least) admitted, finished⟩

/-- Whoever gives up has seen the client open. -/
theorem isClosed_of_exhausted (lost : supervisor.position = .lost cameUp reason fatal)
    (later : (supervisor.step uplink input).2.position = .ended .exhausted) :
    uplink.isClosed = false := by
  rcases decision_step lost input with waits | ⟨pause, decision⟩
  · cases waits.symm.trans later
  · cases decision with
    | exhaust opened => exact opened
    | cancel closed after | refuse opened refused after | retry opened curable allowed taken after =>
      cases after.symm.trans later

/-- Whoever pauses is allowed a further attempt. -/
theorem allowsAttempt_of_pausing {interval : Nat} (follows : supervisor.policy = policy)
    (lost : supervisor.position = .lost cameUp reason fatal)
    (later : (supervisor.step uplink input).2.position = .pausing interval) :
    policy.allowsAttempt (if cameUp then 0 else supervisor.attempts) = true := by
  rcases decision_step lost input with waits | ⟨pause, decision⟩
  · cases waits.symm.trans later
  · cases decision with
    | retry opened curable allowed =>
      rwa [attempts_recount, (sameLimits_recount ..).policy, follows] at allowed
    | cancel closed after | refuse opened refused after | exhaust opened curable why after =>
      cases after.symm.trans later

/-- Whoever is cancelled has counted no fewer attempts than the log, and no more than there may be. -/
theorem within_of_cancelled (counted : Counted policy uplink log supervisor.attempts supervisor.position)
    (later : (supervisor.step uplink input).2.position = .ended .cancelled) :
    inVain log ≤ (supervisor.step uplink input).2.attempts ∧
      policy.Admits (supervisor.step uplink input).2.attempts := by
  have counts := attempts_step supervisor uplink input
  cases position : supervisor.position with
  | lost cameUp reason fatal =>
    rw [position, later] at counts
    rw [position] at counted
    obtain ⟨same, within, _⟩ := counted.recounts
    rw [counts]
    exact ⟨Nat.le_of_eq same, within⟩
  | ready | attempting cameUp | pausing interval | ended ending =>
    rw [position, later] at counts
    rw [counts]
    exact counted.admits.symm

/-- A step keeps the count. -/
theorem counted_step (follows : supervisor.policy = policy)
    (counted : Counted policy uplink log supervisor.attempts supervisor.position) :
    Counted policy (supervisor.step uplink input).1 (log ++ supervisor.notesOf uplink input)
      (supervisor.step uplink input).2.attempts (supervisor.step uplink input).2.position := by
  have steps := steps_step supervisor uplink input
  have counts := attempts_step supervisor uplink input
  have exhausts := fun cameUp reason fatal lost =>
    @isClosed_of_exhausted uplink supervisor input cameUp fatal reason lost
  have pauses := fun cameUp reason fatal interval lost =>
    @allowsAttempt_of_pausing uplink supervisor policy input cameUp fatal reason interval follows lost
  have cancels := @within_of_cancelled uplink supervisor log policy input counted
  generalize (supervisor.step uplink input).2 = next at steps counts exhausts pauses cancels ⊢
  generalize (supervisor.step uplink input).1 = after at steps ⊢
  generalize supervisor.notesOf uplink input = notes at steps ⊢
  cases steps with
  | stay same =>
    subst same
    simpa using counted
  | wake before later =>
    rw [before, later] at counts
    rw [before] at counted
    rw [later, counts]
    simpa [Counted] using counted
  | attempt before later =>
    rw [before, later] at counts
    rw [before] at counted
    obtain ⟨same, allowed⟩ := counted
    rw [later, counts, Counted, inVain_append (by simp)]
    exact ⟨by simpa using same, Retry.Policy.admits_succ allowed⟩
  | publish before later =>
    rw [before, later] at counts
    rw [before] at counted
    rw [later, counts, Counted, inVain_aside (by simp) (by simp)]
    exact counted
  | accept before later =>
    rw [before, later] at counts
    rw [later, counts, Counted, inVain_accepted (by simp)]
    exact ⟨rfl, counted.admits.1⟩
  | @lose _ event _ _ before finished later =>
    rw [before, later] at counts
    rw [before] at counted
    have other : .met .accepted ∉ [Note.met event] := by
      intro member
      obtain rfl := Note.met.inj (List.mem_singleton.1 member)
      cases finished
    rw [later, counts, Counted, inVain_aside other (by simp)]
    exact ⟨counted.1, counted.2, .inr ⟨log, event, _, rfl, finished⟩⟩
  | leave closed before later =>
    rw [before, later] at counts
    rw [before] at counted
    rw [later, counts, Counted, List.append_nil]
    exact ⟨counted.1, counted.2, .inl closed⟩
  | cancel closed before later =>
    obtain ⟨least, within⟩ := cancels later
    rw [later, Counted, inVain_aside (by simp) (by simp)]
    exact ⟨least, within, nofun⟩
  | refuse before later =>
    rw [before, later] at counts
    rw [before] at counted
    obtain ⟨same, within, _⟩ := counted.recounts
    rw [later, counts, Counted, inVain_aside (by simp) (by simp)]
    exact ⟨Nat.le_of_eq same, within, nofun⟩
  | exhaust before why later =>
    rw [before, later] at counts
    rw [before] at counted
    obtain ⟨same, within, finished⟩ := counted.recounts
    have opened := exhausts _ _ _ before later
    rw [later, counts, Counted, inVain_aside (by simp) (by simp)]
    exact ⟨Nat.le_of_eq same, within, fun _ =>
      ⟨same, log, rfl, finished.resolve_left (by simp [opened])⟩⟩
  | retry opened before later =>
    rw [before, later] at counts
    rw [before] at counted
    rw [later, counts, Counted, inVain_aside (by simp) (by simp)]
    exact ⟨counted.recounts.1, pauses _ _ _ _ before later⟩

section

variable {run : Run} {elapsed interval : Nat}

/-- What every run keeps of the count of a supervisor that follows a policy. -/
structure Counting (policy : Retry.Policy) (run : Run) : Prop where
  follows : run.supervisor.policy = policy
  pace : run.supervisor.backoff.reset = .ofPolicy policy
  counted : Counted policy run.client.state run.log run.supervisor.attempts run.supervisor.position

theorem counting_fresh (uplink : Uplink) (policy : Retry.Policy) :
    Counting policy { client := { state := uplink }, supervisor := new policy } :=
  ⟨rfl, rfl, rfl, policy.allowsAttempt_zero⟩

theorem counting_act (counting : Counting policy run) (event : Event) :
    Counting policy (act run event) := by
  cases event with
  | client event =>
    simp only [act]
    split
    case isFalse => exact counting
    case isTrue foreign =>
      exact ⟨counting.follows, counting.pace, counting.counted.aside (aside_act run.client foreign)⟩
  | supervisor input =>
    exact ⟨(sameLimits_step ..).policy.trans counting.follows, (reset_step ..).trans counting.pace,
      counted_step counting.follows counting.counted⟩

theorem counting_run (uplink : Uplink) (policy : Retry.Policy) (events : List Event) :
    Counting policy (Supervisor.run uplink policy events) := by
  apply List.foldlRecOn (motive := Counting policy)
  · exact counting_fresh uplink policy
  · intro before counting event _
    exact counting_act counting event

/-! ## Decisions -/

/-- An open client whose connection is gone hears of a further attempt or of the end. -/
theorem notesOf_decision (input : Input) (opened : uplink.isClosed = false)
    (lost : supervisor.position = .lost cameUp reason false) :
    ((supervisor.step uplink input).2.position = .ended .exhausted →
      supervisor.notesOf uplink input = [.announced .disconnected .retryExpired]) ∧
    (∀ interval, (supervisor.step uplink input).2.position = .pausing interval →
      supervisor.notesOf uplink input = [.announced .disconnectedRetrying reason]) := by
  have steps := steps_step supervisor uplink input
  generalize (supervisor.step uplink input).2 = next at steps ⊢
  generalize (supervisor.step uplink input).1 = after at steps
  generalize supervisor.notesOf uplink input = notes at steps ⊢
  cases steps with
  | stay same =>
    subst same
    simp [lost]
  | cancel closed => simp [opened] at closed
  | exhaust before why later => simp [later]
  | retry open' before later =>
    rw [lost] at before
    obtain ⟨_, rfl, _⟩ := Position.lost.inj before
    simp [later]
  | refuse before later =>
    rw [lost] at before
    cases before
  | wake before | attempt before | publish before | accept before | lose before
  | leave closed before =>
    rw [lost] at before
    cases before

/-- What it means that a supervisor which follows a policy keeps to the limit of attempts. -/
structure LimitsAttempts (policy : Retry.Policy) (run : Run) : Prop where
  /-- There are never more attempts in a row in vain than the limit, and the count does not exceed it
  either. -/
  within : ∀ greatest, policy.maxAttempts = some greatest → 0 < greatest →
    run.supervisor.attempts ≤ greatest ∧ inVain run.log ≤ greatest
  /-- A supervisor that gives up, and not since its time is over, has seen so many attempts in a row end
  in vain. -/
  exhausted : ∀ greatest, policy.maxAttempts = some greatest → 0 < greatest →
    run.supervisor.position = .ended .exhausted → run.client.state.phase ≠ .failed timeExhausted →
      inVain run.log = greatest ∧ IsGivenUp run.log
  /-- Without a limit, a supervisor that gives up does so since its time is over. -/
  unlimited : policy.maxAttempts.getD 0 = 0 → run.supervisor.position = .ended .exhausted →
    run.client.state.phase = .failed timeExhausted ∧ policy.maxElapsedTime ≠ none
  /-- When a connection is gone and there is time for a further attempt, the supervisor gives up with its
  next move just if the limit is reached, and otherwise goes on. -/
  decides : ∀ cameUp reason elapsed interval,
    run.supervisor.position = .lost cameUp reason false → run.client.state.isClosed = false →
      ((run.supervisor.recount cameUp).backoff.nextOf elapsed interval).1 ≠ none →
        let next := act run (.supervisor (.proceed elapsed interval))
        if policy.maxAttempts.getD 0 ≠ 0 ∧ inVain run.log = policy.maxAttempts.getD 0 then
          next.supervisor.position = .ended .exhausted ∧
            next.log = run.log ++ [.announced .disconnected .retryExpired]
        else
          (∃ interval, next.supervisor.position = .pausing interval) ∧
            next.log = run.log ++ [.announced .disconnectedRetrying reason]
  /-- After an attempt that brought a connection, the count and the intervals begin anew, however many
  attempts had been in vain before. -/
  resets : ∀ reason elapsed interval,
    run.supervisor.position = .lost true reason false → run.client.state.isClosed = false →
      let next := act run (.supervisor (.proceed elapsed interval))
      next.supervisor.attempts = 0 ∧
        next.supervisor.backoff = ((Retry.Backoff.ofPolicy policy).nextOf elapsed interval).2
  /-- It makes the attempts that it may make. -/
  movesOn : MovesOn run

theorem Counting.decides (counting : Counting policy run)
    (lost : run.supervisor.position = .lost cameUp reason false)
    (opened : run.client.state.isClosed = false)
    (time : ((run.supervisor.recount cameUp).backoff.nextOf elapsed interval).1 ≠ none) :
    let next := act run (.supervisor (.proceed elapsed interval))
    if policy.maxAttempts.getD 0 ≠ 0 ∧ inVain run.log = policy.maxAttempts.getD 0 then
      next.supervisor.position = .ended .exhausted ∧
        next.log = run.log ++ [.announced .disconnected .retryExpired]
    else
      (∃ interval, next.supervisor.position = .pausing interval) ∧
        next.log = run.log ++ [.announced .disconnectedRetrying reason] := by
  have notes := notesOf_decision (.proceed elapsed interval) opened lost
  have decision :=
    decision_decide (run.supervisor.recount cameUp) run.client.state reason false elapsed interval
  have counted := counting.counted
  rw [lost] at counted
  obtain ⟨same, admitted, _⟩ := counted
  have limit := Retry.Policy.allowsAttempt_eq_false_iff
    (Retry.Policy.admits_of_le (same ▸ counting.counted.admits.2) admitted)
  rw [← same] at limit
  rw [← step_of_lost lost] at decision
  simp only [act]
  cases decision with
  | cancel closed => simp [opened] at closed
  | refuse opened refused => cases refused
  | exhaust opened curable why later =>
    have many := why.resolve_right time
    rw [attempts_recount, (sameLimits_recount ..).policy, counting.follows, ← same] at many
    rw [if_pos (limit.1 many), notes.1 later]
    exact ⟨later, rfl⟩
  | retry opened curable allowed given later =>
    rw [attempts_recount, (sameLimits_recount ..).policy, counting.follows, ← same] at allowed
    have few : ¬ (policy.maxAttempts.getD 0 ≠ 0 ∧ inVain run.log = policy.maxAttempts.getD 0) := by
      rw [← limit, allowed]
      exact Bool.noConfusion
    rw [if_neg few, notes.2 _ later]
    exact ⟨⟨_, later⟩, rfl⟩

theorem Counting.resets (counting : Counting policy run)
    (lost : run.supervisor.position = .lost true reason false)
    (opened : run.client.state.isClosed = false) :
    let next := act run (.supervisor (.proceed elapsed interval))
    next.supervisor.attempts = 0 ∧
      next.supervisor.backoff = ((Retry.Backoff.ofPolicy policy).nextOf elapsed interval).2 := by
  have fresh : (run.supervisor.recount true).backoff = .ofPolicy policy := counting.pace
  have allowed : (run.supervisor.recount true).policy.allowsAttempt
      (run.supervisor.recount true).attempts = true := Retry.Policy.allowsAttempt_zero _
  simp only [act, step_of_lost lost, attempts_decide]
  refine ⟨rfl, ?_⟩
  simp only [Supervisor.decide, opened, allowed, pause, fresh, Bool.false_eq_true, if_false, if_true]
  split
  case h_1 given =>
    rw [given]
    rfl
  case h_2 given => rw [given]

end

/-- A supervisor gives up because of the number of attempts exactly when as many of them in a row as its
policy allows have ended without a connection, counted from the beginning or from the latest one that
came up. -/
theorem limitsAttempts_run (identity : Identity) (settings : Settings.Hub)
    (router : Topic.Router Destination) (policy : Retry.Policy) (events : List Event) :
    LimitsAttempts policy (run (fresh identity settings router) policy events) := by
  have counting := counting_run (fresh identity settings router) policy events
  have endings := (inOrder_run identity settings router policy events).endsOnce
  generalize run (fresh identity settings router) policy events = reached at counting endings ⊢
  obtain ⟨admitted, least⟩ := counting.counted.admits
  constructor
  case within =>
    intro greatest limited positive
    have most := admitted greatest limited positive
    exact ⟨most, Nat.le_trans least most⟩
  case exhausted =>
    intro greatest limited positive ended time
    obtain ⟨_, text, phase, ⟨many, _⟩ | ⟨_, rfl⟩⟩ := endings.exhausted ended
    · have counted := counting.counted
      rw [ended] at counted
      obtain ⟨same, given⟩ := counted.2.2 rfl
      have reached := ((Retry.Policy.allowsAttempt_eq_false_iff admitted).1 many).2
      rw [limited] at reached
      exact ⟨same.trans reached, given⟩
    · exact absurd phase time
  case unlimited =>
    intro unlimited ended
    obtain ⟨_, text, phase, ⟨many, _⟩ | ⟨limited, rfl⟩⟩ := endings.exhausted ended
    · exact absurd unlimited ((Retry.Policy.allowsAttempt_eq_false_iff admitted).1 many).1
    · exact ⟨phase, limited⟩
  case decides => exact fun _ _ _ _ => counting.decides
  case resets => exact fun _ _ _ => counting.resets
  case movesOn => exact endings.movesOn

end Uplink.Supervisor

end DeviceGateway
