/-
# Runs of a supervised client

A supervisor looks after the connection of one client, while calls are under way on the client and
publications of the hub arrive.  An event of such a run is an event of the client or an input of the
supervisor, in any order.  What becomes of the connection is for the supervisor to say; the calls leave
alone what it has said, except that one of them may close the client.

The log notes what can be seen of the supervisor: the attempts that it makes, what happens on the
connection of an attempt, and what it announces.  While its client is open, the supervisor goes on from
wherever it is: from an attempt to the end of its connection, to a decision, and after a pause to the next
attempt.
-/

import DeviceGateway.Proofs.Uplink.Run
import DeviceGateway.Uplink.Supervisor

namespace DeviceGateway

namespace Uplink

/-! ## What the calls leave alone -/

/-- Nothing that a supervisor has said was changed, but the client may have been closed. -/
structure Aside (before after : Uplink) : Prop where
  identity : after.identity = before.identity
  phase : after.phase = before.phase
  announced : after.announced = before.announced
  gate : after.gate = before.gate ∨ after.gate = before.gate.close

theorem Aside.refl (uplink : Uplink) : Aside uplink uplink := ⟨rfl, rfl, rfl, .inl rfl⟩

theorem aside_publish (uplink : Uplink) (topic : String) (payload : Bytes) :
    Aside uplink (uplink.publish topic payload).1 := by
  unfold publish
  split
  case h_1 => exact .refl uplink
  case h_2 => split <;> exact ⟨rfl, rfl, rfl, .inl rfl⟩

theorem aside_close (uplink : Uplink) : Aside uplink uplink.close := by
  unfold close
  split
  case isTrue => exact .refl uplink
  case isFalse => exact ⟨rfl, rfl, rfl, .inr rfl⟩

theorem aside_start (uplink : Uplink) (call : ClientCall) :
    Aside uplink (uplink.start call).state := by
  cases call with
  | feedback status messageId => cases status <;> exact .refl uplink
  | setCallback kind callback => cases kind <;> exact ⟨rfl, rfl, rfl, .inl rfl⟩
  | close => exact aside_close uplink
  | getTwin | updateReported patch | send message | sendBatch messages | receive timeout =>
    exact ⟨rfl, rfl, rfl, .inl rfl⟩

theorem aside_step (uplink : Uplink) (op : Op) : Aside uplink (uplink.step op).state := by
  cases op with
  | begin call => exact aside_start uplink call
  | sending messages =>
    cases messages with
    | nil => exact .refl uplink
    | cons message rest =>
      have aside := aside_publish uplink (Topic.Hub.telemetry uplink.identity message) message.body
      simp only [step]
      split <;> (rename_i published; rw [published] at aside; exact aside)
  | publishing request requestId =>
    have aside := aside_publish uplink (request.topic requestId) request.payload
    simp only [step]
    split <;> (rename_i published; rw [published] at aside; exact aside)
  | abandoning request requestId fault => exact ⟨rfl, rfl, rfl, .inl rfl⟩
  | awaiting request requestId =>
    simp only [step]
    split
    case h_1 => exact ⟨rfl, rfl, rfl, .inl rfl⟩
    case h_2 => split <;> exact .refl uplink
  | inLine ticket timeout =>
    simp only [step]
    split <;> exact .refl uplink
  | receiving ticket timeout =>
    simp only [step]
    split
    case isTrue => exact ⟨rfl, rfl, rfl, .inl rfl⟩
    case isFalse => split <;> exact ⟨rfl, rfl, rfl, .inl rfl⟩

theorem aside_timeUp (uplink : Uplink) (op : Op) : Aside uplink (uplink.timeUp op).state := by
  cases op <;> exact ⟨rfl, rfl, rfl, .inl rfl⟩

theorem aside_giveUp (uplink : Uplink) (op : Op) : Aside uplink (uplink.giveUp op) := by
  cases op <;> exact ⟨rfl, rfl, rfl, .inl rfl⟩

theorem aside_of_moves {uplink : Uplink} {op : Op} {move : Move Uplink Op ClientAnswer}
    (moved : Moves uplink op move) : Aside uplink move.state := by
  cases moved with
  | step can => exact aside_step uplink op
  | timeUp stuck waits => exact aside_timeUp uplink op
  | givenUp receives => exact aside_giveUp uplink op

theorem aside_deliverReply (uplink : Uplink) (requestId : String) (reply : TwinReply) :
    Aside uplink (uplink.deliverReply requestId reply) := by
  unfold deliverReply
  split <;> exact ⟨rfl, rfl, rfl, .inl rfl⟩

theorem aside_enqueue (uplink : Uplink) (message : HubMessage) :
    Aside uplink (uplink.enqueue message) := by
  unfold enqueue
  split <;> exact ⟨rfl, rfl, rfl, .inl rfl⟩

theorem aside_accept (uplink : Uplink) (topic : String) (payload : Bytes) :
    Aside uplink (uplink.accept topic payload).1 := by
  rcases state_accept uplink topic payload with same | ⟨_, _, answer⟩ | ⟨message, queued⟩
  · rw [same]
    exact .refl uplink
  · rw [answer]
    exact aside_deliverReply ..
  · rw [queued]
    exact aside_enqueue uplink message

theorem aside_breakConnection (uplink : Uplink) : Aside uplink uplink.breakConnection := by
  unfold breakConnection
  split <;> exact ⟨rfl, rfl, rfl, .inl rfl⟩

/-- Whether an event of a client is none of its supervisor's: a connection may break by itself, and
whatever else becomes of it is for the supervisor to say. -/
def Event.isForeign : Event → Bool
  | .turns .broken => true
  | .turns _ => false
  | _ => true

theorem aside_act (run : Run) {event : Event} (foreign : event.isForeign = true) :
    Aside run.state (act run event).state := by
  cases event with
  | begins call => exact .refl _
  | arrives topic payload => exact aside_accept ..
  | responds requestId response => exact aside_publish ..
  | turns turn =>
    cases turn with
    | broken => exact aside_breakConnection run.state
    | _ => cases foreign
  | steps member =>
    refine @Crew.advance_induction _ _ _ _ run member (Aside run.state ·.state) _ (.refl _) ?_
    exact fun op move notes _ allowed => aside_of_moves (moves_of_onStep allowed).1
  | timesOut member =>
    refine @Crew.advance_induction _ _ _ _ run member (Aside run.state ·.state) _ (.refl _) ?_
    exact fun op move notes _ allowed => aside_of_moves (moves_of_onTimeUp allowed).1
  | givesUp member =>
    refine @Crew.advance_induction _ _ _ _ run member (Aside run.state ·.state) _ (.refl _) ?_
    exact fun op move notes _ allowed => aside_of_moves (moves_of_onGivingUp allowed).1

/-! ## Runs -/

/-- Why an attempt is over with what happens on its connection, if it is. -/
def ConnectionEvent.endsFor? : ConnectionEvent → Option StatusReason
  | accepted | published => none
  | unheard => some .clientClose
  | ended => some .communicationError
  | failed failure _ => some failure.reason

/-- Whether the hub refuses the credentials with what happens on a connection. -/
def ConnectionEvent.isRefusal : ConnectionEvent → Bool
  | failed failure _ => failure.isFatal
  | _ => false

namespace Supervisor

/-- What can be seen of a supervisor. -/
inductive Note where
  /-- It attempts to connect. -/
  | attempted
  /-- Something happened on the connection of the present attempt. -/
  | met (event : ConnectionEvent)
  | announced (status : ConnectionStatus) (reason : StatusReason)
deriving DecidableEq

/-- A client with its calls and its supervisor. -/
structure Run where
  client : Uplink.Run
  supervisor : Supervisor
  /-- What was seen of the supervisor, from the oldest on. -/
  log : List Note := []

/-- What happens in a run. -/
inductive Event where
  | client (event : Uplink.Event)
  | supervisor (input : Input)

/-- What is announced between two states of a client. -/
def news (before after : Uplink) : List Note :=
  (after.announced.drop before.announced.length).map fun entry => .announced entry.1 entry.2

/-- What can be seen of a supervisor that was given an input. -/
def notesOf (supervisor : Supervisor) (uplink : Uplink) (input : Input) : List Note :=
  (match supervisor.position, input with
    | .attempting _, .event event => [.met event]
    | _, _ => []) ++
  (if supervisor.made < (supervisor.step uplink input).2.made then [.attempted] else []) ++
    news uplink (supervisor.step uplink input).1

/-- A run after one more event. -/
def act (run : Run) : Event → Run
  | .client event => if event.isForeign then { run with client := Uplink.act run.client event } else run
  | .supervisor input =>
    let (uplink, supervisor) := run.supervisor.step run.client.state input
    { client := run.client.drift uplink []
      supervisor
      log := run.log ++ run.supervisor.notesOf run.client.state input }

/-- A run after more events. -/
def onward (run : Run) (events : List Event) : Run := events.foldl act run

/-- The run of a client with a supervisor that follows a policy. -/
def run (uplink : Uplink) (policy : Retry.Policy) (events : List Event) : Run :=
  onward { client := { state := uplink }, supervisor := new policy } events

theorem run_append (uplink : Uplink) (policy : Retry.Policy) (events more : List Event) :
    run uplink policy (events ++ more) = onward (run uplink policy events) more :=
  List.foldl_append

/-! ## What a step can do -/

variable {uplink : Uplink} {supervisor : Supervisor}

/-- The limits under which a supervisor gives up are the same. -/
structure SameLimits (before after : Supervisor) : Prop where
  policy : after.policy = before.policy
  maxElapsed : after.backoff.maxElapsed = before.backoff.maxElapsed

theorem SameLimits.refl (supervisor : Supervisor) : SameLimits supervisor supervisor := ⟨rfl, rfl⟩

theorem SameLimits.trans {first second third : Supervisor} (early : SameLimits first second)
    (late : SameLimits second third) : SameLimits first third :=
  ⟨late.policy.trans early.policy, late.maxElapsed.trans early.maxElapsed⟩

/-- Why a supervisor gives up with a text: the failures in a row are too many, or too much time has
passed. -/
def Exhausts (supervisor : Supervisor) (text : String) : Prop :=
  (supervisor.policy.allowsAttempt supervisor.attempts = false ∧
      text = attemptsExhausted (supervisor.policy.maxAttempts.getD 0)) ∨
    (supervisor.backoff.maxElapsed ≠ none ∧ text = timeExhausted)

/-- The steps of a supervisor: what is seen of each, and what it leaves behind. -/
inductive Steps (uplink : Uplink) (supervisor next : Supervisor) : List Note → Uplink → Prop
  /-- It waits, or has ended. -/
  | stay (same : next = supervisor) : Steps uplink supervisor next [] uplink
  /-- Its pause is over. -/
  | wake {interval : Nat} (before : supervisor.position = .pausing interval)
      (after : next.position = .ready) : Steps uplink supervisor next [] uplink
  | attempt (before : supervisor.position = .ready) (after : next.position = .attempting false) :
      Steps uplink supervisor next [.attempted] (uplink.enter .connecting)
  | publish {cameUp : Bool} (before : supervisor.position = .attempting cameUp)
      (after : next.position = .attempting cameUp) :
      Steps uplink supervisor next [.met .published] uplink
  | accept {cameUp : Bool} (before : supervisor.position = .attempting cameUp)
      (after : next.position = .attempting true) :
      Steps uplink supervisor next [.met .accepted, .announced .connected .connectionOk]
        (uplink.connected.announce .connected .connectionOk)
  /-- The attempt is over with what happened on the connection. -/
  | lose {cameUp : Bool} {event : ConnectionEvent} {reason : StatusReason} {state : Uplink}
      (before : supervisor.position = .attempting cameUp) (finished : event.endsFor? = some reason)
      (after : next.position = .lost cameUp reason event.isRefusal)
      (identity : state.identity = uplink.identity) (silent : state.announced = uplink.announced)
      (refusal : state.gate.refusal = uplink.gate.refusal)
      (text : ∀ failure text, event = .failed failure text → state.gate.lastError = some text) :
      Steps uplink supervisor next [.met event] state
  /-- The attempt is over since the client was closed. -/
  | leave {cameUp : Bool} (closed : uplink.isClosed = true)
      (before : supervisor.position = .attempting cameUp)
      (after : next.position = .lost cameUp .clientClose false) :
      Steps uplink supervisor next [] uplink.disconnected
  | cancel (closed : uplink.isClosed = true) (before : supervisor.hasEnded = false)
      (after : next.position = .ended .cancelled) :
      Steps uplink supervisor next [.announced .disabled .clientClose]
        ((uplink.disconnected.enter .disconnected).announce .disabled .clientClose)
  | refuse {cameUp : Bool} {reason : StatusReason}
      (before : supervisor.position = .lost cameUp reason true)
      (after : next.position = .ended .refused) :
      Steps uplink supervisor next [.announced .disconnected reason]
        (supervisor.acceptRefusal uplink reason).1
  | exhaust {cameUp : Bool} {reason : StatusReason} {text : String}
      (before : supervisor.position = .lost cameUp reason false) (why : next.Exhausts text)
      (after : next.position = .ended .exhausted) :
      Steps uplink supervisor next [.announced .disconnected .retryExpired]
        ((uplink.disconnected.enter (.failed text)).announce .disconnected .retryExpired)
  | retry {cameUp : Bool} {reason : StatusReason} {interval : Nat} (opened : uplink.isClosed = false)
      (before : supervisor.position = .lost cameUp reason false)
      (after : next.position = .pausing interval) :
      Steps uplink supervisor next [.announced .disconnectedRetrying reason]
        ((uplink.enter .reconnecting).announce .disconnectedRetrying reason)

theorem sameLimits_recount (supervisor : Supervisor) (cameUp : Bool) :
    SameLimits supervisor (supervisor.recount cameUp) := by
  unfold recount
  split <;> exact ⟨rfl, rfl⟩

theorem maxElapsed_nextOf (backoff : Retry.Backoff) (elapsed interval : Nat) :
    (backoff.nextOf elapsed interval).2.maxElapsed = backoff.maxElapsed := by
  unfold Retry.Backoff.nextOf
  split
  case h_1 => rfl
  case h_2 => split <;> [rfl; (split <;> rfl)]

/-- The intervals come to an end only where their time is limited. -/
theorem maxElapsed_ne_none {backoff rest : Retry.Backoff} {elapsed interval : Nat}
    (finished : backoff.nextOf elapsed interval = (none, rest)) : rest.maxElapsed ≠ none := by
  have same := maxElapsed_nextOf backoff elapsed interval
  rw [finished] at same
  rw [same]
  intro unlimited
  simp [Retry.Backoff.nextOf, unlimited] at finished

theorem sameLimits_decide (supervisor : Supervisor) (uplink : Uplink) (reason : StatusReason)
    (fatal : Bool) (elapsed interval : Nat) :
    SameLimits supervisor (supervisor.decide uplink reason fatal elapsed interval).2 := by
  have kept := maxElapsed_nextOf supervisor.backoff elapsed interval
  unfold decide pause
  split <;> [exact ⟨rfl, rfl⟩; skip]
  split <;> [exact ⟨rfl, rfl⟩; skip]
  split <;> [skip; exact ⟨rfl, rfl⟩]
  split <;> (rename_i taken; rw [taken] at kept; exact ⟨rfl, kept⟩)

theorem sameLimits_step (supervisor : Supervisor) (uplink : Uplink) (input : Input) :
    SameLimits supervisor (supervisor.step uplink input).2 := by
  cases input with
  | proceed elapsed interval =>
    simp only [step, proceed]
    split
    case h_3 cameUp reason fatal _ =>
      exact (sameLimits_recount supervisor cameUp).trans (sameLimits_decide ..)
    case h_5 => exact .refl supervisor
    all_goals split <;> exact ⟨rfl, rfl⟩
  | event event =>
    simp only [step]
    split
    case h_1 => cases event <;> exact ⟨rfl, rfl⟩
    case h_2 => exact .refl supervisor
  | timeUp =>
    simp only [step]
    split <;> exact ⟨rfl, rfl⟩

theorem made_recount (supervisor : Supervisor) (cameUp : Bool) :
    (supervisor.recount cameUp).made = supervisor.made := by
  unfold recount
  split <;> rfl

theorem made_decide (supervisor : Supervisor) (uplink : Uplink) (reason : StatusReason)
    (fatal : Bool) (elapsed interval : Nat) :
    (supervisor.decide uplink reason fatal elapsed interval).2.made = supervisor.made := by
  unfold decide pause
  split <;> [rfl; skip]
  split <;> [rfl; skip]
  split <;> [skip; rfl]
  split <;> rfl

theorem news_eq_nil {after : Uplink} (same : after.announced = uplink.announced) :
    news uplink after = [] := by
  simp [news, same]

theorem news_announce {after : Uplink} (same : after.announced = uplink.announced)
    (status : ConnectionStatus) (reason : StatusReason) :
    news uplink (after.announce status reason) = [.announced status reason] := by
  simp [news, announce, same]

theorem Steps.announces {next : Supervisor} {after : Uplink} {status : ConnectionStatus}
    {reason : StatusReason} (same : after.announced = uplink.announced)
    (steps : Steps uplink supervisor next [.announced status reason] (after.announce status reason)) :
    Steps uplink supervisor next (news uplink (after.announce status reason))
      (after.announce status reason) := by
  rwa [news_announce same]

theorem Steps.silent {next : Supervisor} {after : Uplink} (same : after.announced = uplink.announced)
    (steps : Steps uplink supervisor next [] after) :
    Steps uplink supervisor next (news uplink after) after := by
  rwa [news_eq_nil same]

/-- What a supervisor decides when a connection is gone. -/
theorem steps_decide {cameUp fatal : Bool} {reason : StatusReason} (elapsed interval : Nat)
    (lost : supervisor.position = .lost cameUp reason fatal) (recounted : Supervisor) :
    Steps uplink supervisor (recounted.decide uplink reason fatal elapsed interval).2
      (news uplink (recounted.decide uplink reason fatal elapsed interval).1)
      (recounted.decide uplink reason fatal elapsed interval).1 := by
  unfold decide
  split
  case isTrue closed => exact .announces rfl (.cancel closed (by simp [hasEnded, lost]) rfl)
  case isFalse opened =>
    cases fatal with
    | true => exact .announces rfl (.refuse lost rfl)
    | false =>
      simp only [Bool.false_eq_true, if_false]
      split
      case isFalse exhausted =>
        have many : recounted.policy.allowsAttempt recounted.attempts = false := by
          simpa using exhausted
        exact .announces rfl (.exhaust lost (.inl ⟨many, rfl⟩) rfl)
      case isTrue =>
        unfold pause
        split
        case h_1 rest finished =>
          exact .announces rfl (.exhaust lost (.inr ⟨maxElapsed_ne_none finished, rfl⟩) rfl)
        case h_2 interval rest _ =>
          exact .announces rfl (.retry (by simpa using opened) lost rfl)

/-- What can happen on the connection of an attempt. -/
theorem steps_observe {cameUp : Bool} (attempting : supervisor.position = .attempting cameUp)
    (event : ConnectionEvent) :
    Steps uplink supervisor (supervisor.observe uplink cameUp event).2
      (.met event :: news uplink (supervisor.observe uplink cameUp event).1)
      (supervisor.observe uplink cameUp event).1 := by
  cases event with
  | accepted =>
    have announced : news uplink (supervisor.observe uplink cameUp .accepted).1 =
        [.announced .connected .connectionOk] := news_announce rfl ..
    rw [announced]
    exact .accept attempting rfl
  | published =>
    have silent : news uplink (supervisor.observe uplink cameUp .published).1 = [] :=
      news_eq_nil rfl
    rw [silent]
    exact .publish attempting attempting
  | unheard =>
    have silent : news uplink (supervisor.observe uplink cameUp .unheard).1 = [] := news_eq_nil rfl
    rw [silent]
    exact .lose attempting rfl rfl rfl rfl rfl fun _ _ => nofun
  | ended =>
    have silent : news uplink (supervisor.observe uplink cameUp .ended).1 = [] := news_eq_nil rfl
    rw [silent]
    exact .lose attempting rfl rfl rfl rfl rfl fun _ _ => nofun
  | failed failure text =>
    have silent : news uplink (supervisor.observe uplink cameUp (.failed failure text)).1 = [] :=
      news_eq_nil rfl
    rw [silent]
    refine .lose attempting rfl rfl rfl rfl rfl ?_
    rintro _ _ ⟨⟩
    rfl

theorem made_observe (supervisor : Supervisor) (uplink : Uplink) (cameUp : Bool)
    (event : ConnectionEvent) :
    (supervisor.observe uplink cameUp event).2.made = supervisor.made := by
  cases event <;> rfl

/-- What can be seen of an input at which the supervisor makes no attempt and nothing happens on a
connection. -/
theorem notesOf_eq_news {input : Input} (quiet : ∀ cameUp event,
      supervisor.position = .attempting cameUp → input ≠ .event event)
    (unmade : (supervisor.step uplink input).2.made = supervisor.made) :
    supervisor.notesOf uplink input = news uplink (supervisor.step uplink input).1 := by
  unfold notesOf
  split
  case h_1 cameUp event attempting => exact absurd rfl (quiet cameUp event attempting)
  case h_2 => simp [unmade]

theorem steps_stay {input : Input} (quiet : ∀ cameUp event,
      supervisor.position = .attempting cameUp → input ≠ .event event)
    (taken : supervisor.step uplink input = (uplink, supervisor)) :
    Steps uplink supervisor (supervisor.step uplink input).2 (supervisor.notesOf uplink input)
      (supervisor.step uplink input).1 := by
  rw [notesOf_eq_news quiet (by rw [taken]), taken]
  exact .silent rfl (.stay rfl)

/-- The steps that a supervisor takes by itself. -/
theorem steps_proceed (supervisor : Supervisor) (uplink : Uplink) (elapsed interval : Nat) :
    Steps uplink supervisor (supervisor.step uplink (.proceed elapsed interval)).2
      (supervisor.notesOf uplink (.proceed elapsed interval))
      (supervisor.step uplink (.proceed elapsed interval)).1 := by
  have quiet : ∀ cameUp event, supervisor.position = .attempting cameUp →
      Input.proceed elapsed interval ≠ .event event := by simp
  cases position : supervisor.position with
  | ready =>
    cases closed : uplink.isClosed with
    | true =>
      have taken : supervisor.step uplink (.proceed elapsed interval) = supervisor.cancel uplink := by
        simp [step, proceed, position, closed]
      rw [notesOf_eq_news quiet (by rw [taken]; rfl), taken]
      exact .announces rfl (.cancel closed (by simp [hasEnded, position]) rfl)
    | false =>
      have notes : supervisor.notesOf uplink (.proceed elapsed interval) = [.attempted] := by
        simp [notesOf, step, proceed, position, closed, news_eq_nil, enter]
      rw [notes]
      simp only [step, proceed, position, closed, Bool.false_eq_true, if_false]
      exact .attempt position rfl
  | attempting cameUp =>
    cases closed : uplink.isClosed with
    | true =>
      have taken : supervisor.step uplink (.proceed elapsed interval) =
          (uplink.disconnected, { supervisor with position := .lost cameUp .clientClose false }) := by
        simp [step, proceed, position, closed]
      rw [notesOf_eq_news quiet (by rw [taken]), taken]
      exact .silent rfl (.leave closed position rfl)
    | false => exact steps_stay quiet (by simp [step, proceed, position, closed])
  | lost cameUp reason fatal =>
    have taken : supervisor.step uplink (.proceed elapsed interval) =
        (supervisor.recount cameUp).decide uplink reason fatal elapsed interval := by
      simp [step, proceed, position]
    rw [notesOf_eq_news quiet (by rw [taken, made_decide, made_recount]), taken]
    exact steps_decide elapsed interval position _
  | pausing pause =>
    cases closed : uplink.isClosed with
    | true =>
      have taken : supervisor.step uplink (.proceed elapsed interval) = supervisor.cancel uplink := by
        simp [step, proceed, position, closed]
      rw [notesOf_eq_news quiet (by rw [taken]; rfl), taken]
      exact .announces rfl (.cancel closed (by simp [hasEnded, position]) rfl)
    | false => exact steps_stay quiet (by simp [step, proceed, position, closed])
  | ended ending => exact steps_stay quiet (by simp [step, proceed, position])

/-- Every input makes a supervisor take one of its steps. -/
theorem steps_step (supervisor : Supervisor) (uplink : Uplink) (input : Input) :
    Steps uplink supervisor (supervisor.step uplink input).2 (supervisor.notesOf uplink input)
      (supervisor.step uplink input).1 := by
  cases input with
  | proceed elapsed interval => exact steps_proceed supervisor uplink elapsed interval
  | event event =>
    cases position : supervisor.position with
    | attempting cameUp =>
      have taken : supervisor.step uplink (.event event) = supervisor.observe uplink cameUp event := by
        simp [step, position]
      have notes : supervisor.notesOf uplink (.event event) =
          .met event :: news uplink (supervisor.observe uplink cameUp event).1 := by
        simp [notesOf, position, taken, made_observe]
      rw [taken, notes]
      exact steps_observe position event
    | _ => exact steps_stay (by simp [position]) (by simp [step, position])
  | timeUp =>
    cases position : supervisor.position with
    | pausing interval =>
      have taken : supervisor.step uplink .timeUp =
          (uplink, { supervisor with position := .ready }) := by
        simp [step, position]
      rw [notesOf_eq_news (by simp) (by rw [taken]), taken]
      exact .silent rfl (.wake position rfl)
    | _ => exact steps_stay (by simp) (by simp [step, position])

/-! ## What a supervisor decides -/

/-- The ways in which a decision goes, where the intervals give a pause or none. -/
inductive Decision (uplink : Uplink) (fatal : Bool) (pause : Option Nat) (supervisor next : Supervisor) :
    Prop
  | cancel (closed : uplink.isClosed = true) (after : next.position = .ended .cancelled)
  | refuse (opened : uplink.isClosed = false) (refused : fatal = true)
      (after : next.position = .ended .refused)
  | exhaust (opened : uplink.isClosed = false) (curable : fatal = false)
      (why : supervisor.policy.allowsAttempt supervisor.attempts = false ∨ pause = none)
      (after : next.position = .ended .exhausted)
  | retry {interval : Nat} (opened : uplink.isClosed = false) (curable : fatal = false)
      (allowed : supervisor.policy.allowsAttempt supervisor.attempts = true)
      (taken : pause = some interval) (after : next.position = .pausing interval)

theorem decision_decide (supervisor : Supervisor) (uplink : Uplink) (reason : StatusReason)
    (fatal : Bool) (elapsed interval : Nat) :
    Decision uplink fatal (supervisor.backoff.nextOf elapsed interval).1 supervisor
      (supervisor.decide uplink reason fatal elapsed interval).2 := by
  unfold Supervisor.decide
  split
  case isTrue closed => exact .cancel closed rfl
  case isFalse opened =>
    have opened : uplink.isClosed = false := by simpa using opened
    cases fatal with
    | true => exact .refuse opened rfl rfl
    | false =>
      simp only [Bool.false_eq_true, if_false]
      split
      case isFalse exhausted => exact .exhaust opened rfl (.inl (by simpa using exhausted)) rfl
      case isTrue allowed =>
        unfold pause
        split
        case h_1 taken => exact .exhaust opened rfl (.inr (by rw [taken])) rfl
        case h_2 taken => exact .retry opened rfl allowed (by rw [taken]) rfl

theorem step_of_lost {cameUp fatal : Bool} {reason : StatusReason}
    (lost : supervisor.position = .lost cameUp reason fatal) (elapsed interval : Nat) :
    supervisor.step uplink (.proceed elapsed interval) =
      (supervisor.recount cameUp).decide uplink reason fatal elapsed interval := by
  simp only [step, proceed, lost]

/-! ## How a supervisor goes on -/

/-- What becomes of a supervisor at each of its positions while its client is open. -/
structure MovesOn (run : Run) : Prop where
  /-- With its next move a supervisor that is ready makes an attempt. -/
  attempts : ∀ elapsed interval, run.supervisor.position = .ready →
    run.client.state.isClosed = false →
      let next := act run (.supervisor (.proceed elapsed interval))
      next.supervisor.position = .attempting false ∧ next.log = run.log ++ [.attempted]
  /-- An attempt is over with whatever ends its connection. -/
  loses : ∀ cameUp event reason, run.supervisor.position = .attempting cameUp →
    event.endsFor? = some reason →
      let next := act run (.supervisor (.event event))
      next.supervisor.position = .lost cameUp reason event.isRefusal ∧
        next.log = run.log ++ [.met event]
  /-- When the connection is gone, a refusal of the credentials is the end, and otherwise there is a pause
  unless it gives up. -/
  decides : ∀ cameUp reason fatal elapsed interval,
    run.supervisor.position = .lost cameUp reason fatal → run.client.state.isClosed = false →
      let next := act run (.supervisor (.proceed elapsed interval))
      if fatal then next.supervisor.position = .ended .refused
      else next.supervisor.position = .ended .exhausted ∨
        ∃ pause, next.supervisor.position = .pausing pause
  /-- It is ready again when the pause is over. -/
  wakes : ∀ pause, run.supervisor.position = .pausing pause →
    let next := act run (.supervisor .timeUp)
    next.supervisor.position = .ready ∧ next.client.state = run.client.state ∧ next.log = run.log

variable {run : Run} {elapsed interval : Nat}

theorem attempting_of_ready (ready : run.supervisor.position = .ready)
    (opened : run.client.state.isClosed = false) :
    let next := act run (.supervisor (.proceed elapsed interval))
    next.supervisor.position = .attempting false ∧ next.log = run.log ++ [.attempted] := by
  simp [act, notesOf, step, proceed, ready, opened, news, enter]

theorem lost_of_endsFor {cameUp : Bool} {event : ConnectionEvent} {reason : StatusReason}
    (attempting : run.supervisor.position = .attempting cameUp)
    (finished : event.endsFor? = some reason) :
    let next := act run (.supervisor (.event event))
    next.supervisor.position = .lost cameUp reason event.isRefusal ∧
      next.log = run.log ++ [.met event] := by
  have taken : run.supervisor.step run.client.state (.event event) =
      run.supervisor.observe run.client.state cameUp event := by
    simp [step, attempting]
  simp only [act]
  cases event with
  | accepted | published => cases finished
  | unheard | ended | failed failure text =>
    obtain rfl := Option.some.inj finished
    simp [notesOf, taken, attempting, observe, news, disconnected, lost, ConnectionEvent.isRefusal]

/-- The end of a pause is not noted. -/
theorem ready_of_pausing {pause : Nat} (pausing : run.supervisor.position = .pausing pause) :
    let next := act run (.supervisor .timeUp)
    next.supervisor.position = .ready ∧ next.client.state = run.client.state ∧ next.log = run.log := by
  simp [act, step, pausing, notesOf, news, Crew.drift]

theorem movesOn (run : Run) : MovesOn run where
  attempts := fun _ _ => attempting_of_ready
  loses := fun _ _ _ => lost_of_endsFor
  decides := by
    intro cameUp reason fatal elapsed interval lost opened
    have decision := decision_decide (run.supervisor.recount cameUp) run.client.state reason fatal
      elapsed interval
    simp only [act, step_of_lost lost]
    cases decision with
    | cancel closed => cases opened.symm.trans closed
    | refuse opened refused later =>
      rw [if_pos refused]
      exact later
    | exhaust opened curable why later =>
      rw [if_neg (Bool.eq_false_iff.1 curable)]
      exact .inl later
    | retry opened curable allowed taken later =>
      rw [if_neg (Bool.eq_false_iff.1 curable)]
      exact .inr ⟨_, later⟩
  wakes := fun _ => ready_of_pausing

end Supervisor

end Uplink

end DeviceGateway
