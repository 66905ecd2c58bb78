/-
# Attempts without a retry

A policy that allows one attempt counts, as every policy does, the attempts that bring no connection.  So
an attempt in vain is the last one; but after an attempt that brought a connection the count begins anew,
and a supervisor whose connection is lost later attempts again, as often as a connection comes up.

The induction is on the events of a run: whenever an attempt is to be made, none has been in vain since the
latest connection came up.
-/

import DeviceGateway.Proofs.Supervisor.Limit
import DeviceGateway.Proofs.Uplink.Routes
import Mathlib.Data.List.Induction

namespace DeviceGateway.Uplink.Supervisor

variable {uplink : Uplink} {supervisor : Supervisor} {log notes : List Note}

/-! ## Logs without a retry in vain -/

/-- No attempt follows one that was in vain. -/
def Unspent (log : List Note) : Prop := ∀ earlier, earlier ++ [.attempted] <+: log → inVain earlier = 0

theorem unspent_concat_iff {note : Note} :
    Unspent (log ++ [note]) ↔ Unspent log ∧ (note = .attempted → inVain log = 0) := by
  constructor
  · intro unspent
    refine ⟨fun earlier within => unspent earlier (within.trans (List.prefix_append log [note])), ?_⟩
    rintro rfl
    exact unspent log (List.prefix_refl _)
  · rintro ⟨unspent, last⟩ earlier within
    rcases List.prefix_concat_iff.1 within with same | before
    · obtain ⟨rfl, singleton⟩ := List.append_inj' same rfl
      exact last (List.singleton_inj.1 singleton).symm
    · exact unspent earlier before

theorem Unspent.append (unspent : Unspent log) (quiet : .attempted ∉ notes) : Unspent (log ++ notes) := by
  induction notes generalizing log with
  | nil => simpa using unspent
  | cons note rest ih =>
    rw [List.mem_cons, not_or] at quiet
    rw [List.append_cons]
    exact ih (unspent_concat_iff.2 ⟨unspent, fun same => absurd same.symm quiet.1⟩) quiet.2

/-- Between two attempts a connection came up. -/
theorem Unspent.accepted {earlier middle later : List Note} (unspent : Unspent log)
    (split : log = earlier ++ .attempted :: (middle ++ .attempted :: later)) :
    .met .accepted ∈ middle := by
  by_contra absent
  have spent := unspent (earlier ++ .attempted :: middle) ⟨later, by simp [split]⟩
  rw [inVain_append (by simp [absent]), List.count_cons_self] at spent
  omega

/-- There is at most one attempt more than connections came up. -/
theorem Unspent.count_le (unspent : Unspent log) :
    log.count .attempted ≤ log.count (.met .accepted) + inVain log ∧ inVain log ≤ 1 := by
  induction log using List.reverseRecOn with
  | nil => simp [inVain]
  | append_singleton log note ih =>
    obtain ⟨before, last⟩ := unspent_concat_iff.1 unspent
    obtain ⟨fewer, most⟩ := ih before
    simp only [List.count_append]
    by_cases attempt : note = .attempted
    · subst attempt
      rw [inVain_append (by simp), last rfl]
      rw [last rfl] at fewer
      simpa using fewer
    · by_cases accepted : note = .met .accepted
      · subst accepted
        rw [inVain_accepted (by simp)]
        simp
        omega
      · rw [inVain_aside (by simpa using Ne.symm accepted) (by simpa using Ne.symm attempt)]
        simpa [List.count_singleton, attempt, accepted] using ⟨fewer, most⟩

/-! ## What every run keeps -/

/-- The attempt that is under way, or over, is counted. -/
def IncludesPresent (attempts : Nat) : Position → Prop
  | .attempting _ | .lost _ _ _ => 0 < attempts
  | _ => True

theorem includesPresent_step (input : Input)
    (includes : IncludesPresent supervisor.attempts supervisor.position) :
    IncludesPresent (supervisor.step uplink input).2.attempts (supervisor.step uplink input).2.position := by
  have steps := steps_step supervisor uplink input
  have counts := attempts_step supervisor uplink input
  generalize (supervisor.step uplink input).2 = next at steps counts ⊢
  generalize (supervisor.step uplink input).1 = after at steps
  generalize supervisor.notesOf uplink input = notes at steps
  cases steps with
  | stay same =>
    subst same
    exact includes
  | attempt before later =>
    rw [before, later] at counts
    rw [later, counts]
    exact Nat.succ_pos _
  | publish before later | accept before later | lose before finished later
  | leave closed before later =>
    rw [before, later] at counts
    rw [before] at includes
    rw [later, counts]
    exact includes
  | wake before later | cancel closed before later | refuse before later
  | exhaust before why later | retry opened before later =>
    rw [later]
    trivial

section

variable {run : Run} {reason : StatusReason} {fatal : Bool} {elapsed interval : Nat}

/-- What every run keeps of a supervisor that is not to retry. -/
structure Sparing (run : Run) : Prop where
  counting : Counting .noRetry run
  includes : IncludesPresent run.supervisor.attempts run.supervisor.position
  unspent : Unspent run.log

/-- Where an attempt is to be made, none was in vain. -/
theorem Sparing.inVain_eq_zero (sparing : Sparing run) (ready : run.supervisor.position = .ready) :
    inVain run.log = 0 := by
  have counted := sparing.counting.counted
  rw [ready] at counted
  obtain ⟨same, allowed⟩ := counted
  have less : run.supervisor.attempts < 1 := by
    simpa [Retry.Policy.allowsAttempt, Retry.Policy.noRetry] using allowed
  omega

theorem sparing_act (sparing : Sparing run) (event : Event) : Sparing (act run event) := by
  refine ⟨counting_act sparing.counting event, ?_, ?_⟩
  case refine_1 =>
    cases event with
    | client event =>
      simp only [act]
      split <;> exact sparing.includes
    | supervisor input => exact includesPresent_step input sparing.includes
  case refine_2 =>
    cases event with
    | client event =>
      simp only [act]
      split <;> exact sparing.unspent
    | supervisor input =>
      have steps := steps_step run.supervisor run.client.state input
      have fits := sparing.inVain_eq_zero
      simp only [act]
      generalize (run.supervisor.step run.client.state input).2 = next at steps
      generalize (run.supervisor.step run.client.state input).1 = after at steps
      generalize run.supervisor.notesOf run.client.state input = notes at steps ⊢
      cases steps with
      | attempt before => exact unspent_concat_iff.2 ⟨sparing.unspent, fun _ => fits before⟩
      | _ => exact sparing.unspent.append (by simp)

theorem sparing_run (uplink : Uplink) (events : List Event) :
    Sparing (Supervisor.run uplink .noRetry events) := by
  apply List.foldlRecOn (motive := Sparing)
  · exact ⟨counting_fresh uplink .noRetry, trivial, fun earlier within => by simp at within⟩
  · intro before sparing event _
    exact sparing_act sparing event

/-! ## Ends and further attempts -/

theorem Ending.isTerminal_notice (ending : Ending) :
    ∃ status reason, ending.notice = .announced status reason ∧ isTerminal status reason = true := by
  cases ending <;> exact ⟨_, _, rfl, rfl⟩

/-- A supervisor that ends announces this and nothing else. -/
theorem log_of_ended {identity : Identity} {policy : Retry.Policy} {cameUp : Bool} {ending : Ending}
    {input : Input} (inOrder : InOrder identity policy run)
    (lost : run.supervisor.position = .lost cameUp reason fatal)
    (ended : (act run (.supervisor input)).supervisor.position = .ended ending) :
    (act run (.supervisor input)).log = run.log ++ [ending.notice] := by
  have single : ∃ note, run.supervisor.notesOf run.client.state input = [note] := by
    have steps := steps_step run.supervisor run.client.state input
    simp only [act] at ended
    generalize (run.supervisor.step run.client.state input).2 = next at steps ended
    generalize (run.supervisor.step run.client.state input).1 = after at steps
    generalize run.supervisor.notesOf run.client.state input = notes at steps ⊢
    cases steps with
    | cancel | refuse | exhaust => exact ⟨_, rfl⟩
    | stay same =>
      subst same
      cases lost.symm.trans ended
    | wake before later | attempt before later | publish before later | accept before later
    | lose before finished later | leave closed before later | retry opened before later =>
      cases later.symm.trans ended
  obtain ⟨note, alone⟩ := single
  obtain ⟨earlier, split, _⟩ := ((inOrder_act inOrder (.supervisor input)).hasEnded ended).left
  have whole : (act run (.supervisor input)).log = run.log ++ [note] := by rw [act, alone]
  rw [whole] at split ⊢
  rw [(List.append_inj' split rfl).2]

/-- Nothing is attempted after an attempt in vain. -/
theorem Sparing.ends {cameUp : Bool} (sparing : Sparing run)
    (lost : run.supervisor.position = .lost cameUp reason fatal)
    (incurable : cameUp = false ∨ fatal = true ∨ run.client.state.isClosed = true) :
    ∃ ending, (act run (.supervisor (.proceed elapsed interval))).supervisor.position = .ended ending := by
  have decision :=
    decision_decide (run.supervisor.recount cameUp) run.client.state reason fatal elapsed interval
  simp only [act, step_of_lost lost]
  cases decision with
  | cancel closed later => exact ⟨_, later⟩
  | refuse opened refused later => exact ⟨_, later⟩
  | exhaust opened curable why later => exact ⟨_, later⟩
  | retry opened curable allowed =>
    rcases incurable with rfl | refused | closed
    · have present : 0 < run.supervisor.attempts := by
        have includes := sparing.includes
        rwa [lost] at includes
      rw [attempts_recount, (sameLimits_recount ..).policy, sparing.counting.follows] at allowed
      have less : run.supervisor.attempts < 1 := by
        simpa [Retry.Policy.allowsAttempt, Retry.Policy.noRetry] using allowed
      omega
    · cases curable.symm.trans refused
    · cases opened.symm.trans closed

/-- A supervisor whose connection came up and was lost pauses, whatever its policy says of the number of
attempts, if there is no limit of time. -/
theorem pausing_of_cameUp (forever : run.supervisor.backoff.maxElapsed = none)
    (lost : run.supervisor.position = .lost true reason false)
    (opened : run.client.state.isClosed = false) : ∃ pause,
      (act run (.supervisor (.proceed elapsed interval))).supervisor.position = .pausing pause := by
  have decision :=
    decision_decide (run.supervisor.recount true) run.client.state reason false elapsed interval
  have time : ((run.supervisor.recount true).backoff.nextOf elapsed interval).1 ≠ none := by
    intro finished
    refine maxElapsed_ne_none (Prod.ext finished rfl) ?_
    rw [maxElapsed_nextOf, (sameLimits_recount ..).maxElapsed, forever]
  simp only [act, step_of_lost lost]
  cases decision with
  | cancel closed => cases opened.symm.trans closed
  | refuse opened refused => cases refused
  | exhaust opened curable why =>
    have many := why.resolve_right time
    rw [attempts_recount, if_pos rfl, Retry.Policy.allowsAttempt_zero] at many
    cases many
  | retry opened curable allowed given later => exact ⟨_, later⟩

/-- Whoever pauses after a connection is gone announces this, and leaves the client open. -/
theorem log_of_pausing {cameUp : Bool} {input : Input} {pause : Nat}
    (lost : run.supervisor.position = .lost cameUp reason fatal)
    (pausing : (act run (.supervisor input)).supervisor.position = .pausing pause) :
    (act run (.supervisor input)).client.state.isClosed = false ∧
      (act run (.supervisor input)).log = run.log ++ [.announced .disconnectedRetrying reason] := by
  have steps := steps_step run.supervisor run.client.state input
  simp only [act] at pausing ⊢
  generalize (run.supervisor.step run.client.state input).2 = next at steps pausing
  generalize (run.supervisor.step run.client.state input).1 = after at steps ⊢
  generalize run.supervisor.notesOf run.client.state input = notes at steps ⊢
  cases steps with
  | retry opened before later =>
    obtain ⟨_, rfl, _⟩ := Position.lost.inj (lost.symm.trans before)
    exact ⟨opened, rfl⟩
  | stay same =>
    subst same
    cases lost.symm.trans pausing
  | wake before later | attempt before later | publish before later | accept before later
  | lose before finished later | leave closed before later | cancel closed before later
  | refuse before later | exhaust before why later => cases later.symm.trans pausing

/-- So it attempts again. -/
theorem log_of_cameUp {elapsed' interval' : Nat} (forever : run.supervisor.backoff.maxElapsed = none)
    (lost : run.supervisor.position = .lost true reason false)
    (opened : run.client.state.isClosed = false) :
    (onward run [.supervisor (.proceed elapsed interval), .supervisor .timeUp,
      .supervisor (.proceed elapsed' interval')]).log =
        run.log ++ [.announced .disconnectedRetrying reason, .attempted] := by
  obtain ⟨pause, pausing⟩ := @pausing_of_cameUp run reason elapsed interval forever lost opened
  obtain ⟨still, first⟩ := log_of_pausing lost pausing
  obtain ⟨ready, same, second⟩ := ready_of_pausing pausing
  rw [← same] at still
  have third := (@attempting_of_ready _ elapsed' interval' ready still).2
  rw [second, first, List.append_assoc] at third
  exact third

end

/-- What it means that a supervisor which is not to retry does so only after a connection was lost. -/
structure RetriesOnlyLost (run : Run) : Prop where
  between : ∀ earlier middle later,
    run.log = earlier ++ .attempted :: (middle ++ .attempted :: later) → .met .accepted ∈ middle
  /-- In particular, there is only one attempt where none brought a connection. -/
  bounded : run.log.count .attempted ≤ run.log.count (.met .accepted) + 1
  /-- An attempt in vain is followed by the end, and so is a refusal and the closing of the client. -/
  ends : ∀ cameUp reason fatal elapsed interval, run.supervisor.position = .lost cameUp reason fatal →
    cameUp = false ∨ fatal = true ∨ run.client.state.isClosed = true →
      let next := act run (.supervisor (.proceed elapsed interval))
      ∃ ending status reason, next.supervisor.position = .ended ending ∧
        isTerminal status reason = true ∧ next.log = run.log ++ [.announced status reason]
  rests : ∀ ending more, run.supervisor.position = .ended ending → Rests run (onward run more)
  /-- A connection that came up and was lost is replaced. -/
  reconnects : ∀ reason elapsed interval elapsed' interval',
    run.supervisor.position = .lost true reason false → run.client.state.isClosed = false →
      (onward run [.supervisor (.proceed elapsed interval), .supervisor .timeUp,
        .supervisor (.proceed elapsed' interval')]).log =
          run.log ++ [.announced .disconnectedRetrying reason, .attempted]

/-- A supervisor that is not to retry makes no attempt after one in vain, but ends with a terminal status;
only a connection that came up and was lost is followed by a further attempt. -/
theorem retriesOnlyLost_run (identity : Identity) (settings : Settings.Hub)
    (router : Topic.Router Destination) (events : List Event) :
    RetriesOnlyLost (run (fresh identity settings router) .noRetry events) := by
  have sparing := sparing_run (fresh identity settings router) events
  have inOrder := inOrder_run identity settings router .noRetry events
  generalize run (fresh identity settings router) .noRetry events = reached at sparing inOrder ⊢
  constructor
  case between => exact fun _ _ _ => sparing.unspent.accepted
  case bounded =>
    obtain ⟨fewer, most⟩ := sparing.unspent.count_le
    omega
  case ends =>
    intro cameUp reason fatal elapsed interval lost incurable
    obtain ⟨ending, ended⟩ := sparing.ends lost incurable
    obtain ⟨status, reason, notice, terminal⟩ := ending.isTerminal_notice
    exact ⟨ending, status, reason, ended, terminal, notice ▸ log_of_ended inOrder lost ended⟩
  case rests => exact fun _ more ended => rests_onward ended more
  case reconnects =>
    intro reason elapsed interval elapsed' interval' lost opened
    exact log_of_cameUp inOrder.limits.maxElapsed lost opened

/-- A client whose connection comes up at the first attempt and is ended by the hub. -/
def lostConnection : List Event :=
  [.supervisor (.proceed 0 0), .supervisor (.event .accepted), .supervisor (.event .ended)]

/-- Its supervisor attempts again although it is not to retry, and has not ended. -/
theorem attempted_of_lostConnection :
    let run := run (fresh thermometer {} ⟨hubRoutes⟩) .noRetry (lostConnection ++
      [.supervisor (.proceed 0 0), .supervisor .timeUp, .supervisor (.proceed 0 0)])
    run.log.count .attempted = 2 ∧ run.supervisor.hasEnded = false := by
  decide

end DeviceGateway.Uplink.Supervisor
