/-
# What becomes of an attempt to publish

Telemetry, twin requests and responses to method requests are published through one gate.  The history of
a client says which connections came up and went away, whether the hub refused the credentials, and
whether the client was closed; whether an attempt to publish succeeds, through which connection, and with
which fault it fails otherwise, is read off this history, in whatever order things happened.

The gate itself remembers less than the history.  Once the credentials were refused or the client was
closed it is of no importance which connection it remembers, and in fact a connection that comes up later
still enters there; so the invariant speaks of the connection only before.
-/

import DeviceGateway.Proofs.Since
import DeviceGateway.Proofs.Supervisor.Endings
import DeviceGateway.Proofs.Uplink.Refusal
import Mathlib.Data.List.Induction

namespace DeviceGateway

namespace Uplink

variable {uplink before after : Uplink} {fault : Fault} {topic : String} {payload : Bytes}

/-! ## The gate -/

/-- Without a refusal, a gate that lets nothing pass says that no connection is up. -/
theorem Gate.pass_eq_notConnected {gate : Gate} (unrefused : gate.refusal = none)
    (barred : ∀ connection, gate.pass ≠ .ok connection) : gate.pass = .error .notConnected := by
  unfold pass at barred ⊢
  rw [unrefused] at barred ⊢
  dsimp only at barred ⊢
  split
  case isTrue => rfl
  case isFalse free =>
    rw [if_neg free] at barred
    split
    case h_1 connection up =>
      rw [up] at barred
      exact absurd rfl (barred connection)
    case h_2 => rfl

/-- What the gate and the connections behind it are is the same. -/
structure SameGate (before after : Uplink) : Prop where
  gate : after.gate = before.gate
  connections : after.connections = before.connections

theorem SameGate.refl (uplink : Uplink) : SameGate uplink uplink := ⟨rfl, rfl⟩

theorem sameGate_publish (uplink : Uplink) (topic : String) (payload : Bytes) :
    SameGate uplink (uplink.publish topic payload).1 := by
  unfold publish
  split
  case h_1 => exact .refl uplink
  case h_2 => split <;> exact ⟨rfl, rfl⟩

theorem sameGate_accept (uplink : Uplink) (topic : String) (payload : Bytes) :
    SameGate uplink (uplink.accept topic payload).1 := by
  rcases state_accept uplink topic payload with same | ⟨_, _, answer⟩ | ⟨message, queued⟩
  · rw [same]
    exact .refl uplink
  · rw [answer, deliverReply]
    split <;> exact ⟨rfl, rfl⟩
  · rw [queued, enqueue]
    split <;> exact ⟨rfl, rfl⟩

/-- Of the steps only the one that closes changes the gate. -/
theorem sameGate_step {op : Op} (stays : op ≠ .begin .close) :
    SameGate uplink (uplink.step op).state := by
  cases attempt : attemptOf? uplink op with
  | some published =>
    rw [(step_of_attempt attempt).1]
    exact sameGate_publish ..
  | none =>
    cases op with
    | begin call =>
      cases call with
      | feedback status messageId => cases status <;> exact .refl uplink
      | setCallback kind callback => cases kind <;> exact ⟨rfl, rfl⟩
      | close => exact absurd rfl stays
      | getTwin | updateReported patch | send message | sendBatch messages | receive timeout =>
        exact ⟨rfl, rfl⟩
    | sending messages =>
      cases messages with
      | nil => exact .refl uplink
      | cons message rest => cases attempt
    | publishing request requestId => cases attempt
    | abandoning request requestId fault => exact ⟨rfl, rfl⟩
    | awaiting request requestId =>
      simp only [step]
      split <;> [exact ⟨rfl, rfl⟩; (split <;> exact .refl uplink)]
    | inLine ticket timeout =>
      simp only [step]
      split <;> exact .refl uplink
    | receiving ticket timeout =>
      simp only [step]
      split <;> [exact ⟨rfl, rfl⟩; (split <;> exact ⟨rfl, rfl⟩)]

/-! ## Histories -/

/-- What becomes of a client. -/
inductive Sign where
  /-- A connection has come up. -/
  | cameUp
  /-- The connection is gone. -/
  | wentAway
  /-- The hub has refused the credentials. -/
  | refused (fault : Fault)
  | closed
deriving DecidableEq

/-- What an event of a run says of the client. -/
def signs (run : Run) : Event → List Sign
  | .turns .connected => [.cameUp]
  | .turns (.lost _) | .turns .disconnected => [.wentAway]
  | .turns (.refused fault) => [.refused fault]
  | .steps member =>
    match run.members[member]? with
    | some (.running (.begin .close)) => [.closed]
    | _ => []
  | _ => []

/-- What becomes of a client through a list of events. -/
def history (run : Run) : List Event → List Sign
  | [] => []
  | event :: events => signs run event ++ history (act run event) events

theorem history_append (run : Run) (events more : List Event) :
    history run (events ++ more) = history run events ++ history (onward run events) more := by
  induction events generalizing run with
  | nil => rfl
  | cons event events ih =>
    rw [List.cons_append, history, history, ih, List.append_assoc]
    rfl

/-- The latest that is told of connections is that one came up, the one with a number; they are numbered
in the order in which they came up. -/
def IsUp (connection : Nat) (history : List Sign) : Prop :=
  Since .cameUp (· ≠ .wentAway) history ∧ history.count .cameUp = connection + 1

/-- The latest refusal that is told of was recorded with a fault. -/
def IsRefused (fault : Fault) (history : List Sign) : Prop :=
  Since (.refused fault) (fun sign => ∀ other, sign ≠ .refused other) history

/-- What the gate of a client has to do with its history. -/
structure Gated (history : List Sign) (uplink : Uplink) : Prop where
  refused : ∀ fault, uplink.gate.refusal = some fault ↔ IsRefused fault history
  closed : uplink.gate.shutdown = true ↔ .closed ∈ history
  connections : uplink.connections = history.count .cameUp
  /-- While nothing was refused and the client is not closed, the gate remembers the connection that is
  up. -/
  up : uplink.gate.refusal = none → uplink.gate.shutdown = false → ∀ connection,
    uplink.gate.healthy = true ∧ uplink.gate.connection = some connection ↔ IsUp connection history

variable {past : List Sign} {connection : Nat}

theorem gated_fresh (identity : Identity) (settings : Settings.Hub)
    (router : Topic.Router Destination) : Gated [] (fresh identity settings router) where
  refused := fun _ => iff_of_false nofun not_since_nil
  closed := by simp [fresh]
  connections := rfl
  up := fun _ _ _ => iff_of_false (by simp [fresh]) fun up => not_since_nil up.1

theorem Gated.same (gated : Gated past before) (same : SameGate before after) :
    Gated past after := by
  obtain ⟨refused, closed, connections, up⟩ := gated
  rw [← same.gate] at refused closed up
  exact ⟨refused, closed, same.connections.trans connections, up⟩

theorem isRefused_append_iff {sign : Sign} (quiet : ∀ other, sign ≠ .refused other) :
    IsRefused fault (past ++ [sign]) ↔ IsRefused fault past := by
  rw [IsRefused, since_append_singleton_iff, or_iff_right (quiet fault), and_iff_right quiet,
    ← IsRefused]

theorem exists_isRefused (refused : ∃ fault, .refused fault ∈ past) :
    ∃ fault, IsRefused fault past := by
  induction past using List.reverseRecOn with
  | nil =>
    obtain ⟨fault, told⟩ := refused
    cases told
  | append_singleton past sign ih =>
    by_cases latest : ∃ fault, sign = .refused fault
    · obtain ⟨fault, rfl⟩ := latest
      exact ⟨fault, since_append_mark past⟩
    · have quiet : ∀ other, sign ≠ .refused other := fun other same => latest ⟨other, same⟩
      obtain ⟨fault, told⟩ := refused
      have early : .refused fault ∈ past := by simpa [(quiet fault).symm] using told
      obtain ⟨recorded, told⟩ := ih ⟨fault, early⟩
      exact ⟨recorded, (isRefused_append_iff quiet).2 told⟩

theorem closed_mem_append_iff {sign : Sign} (quiet : sign ≠ .closed) :
    .closed ∈ past ++ [sign] ↔ .closed ∈ past := by
  rw [List.mem_append, List.mem_singleton, or_iff_left quiet.symm]

theorem Gated.connected (gated : Gated past uplink) :
    Gated (past ++ [.cameUp]) uplink.connected where
  refused := fun fault => (gated.refused fault).trans (isRefused_append_iff (by simp)).symm
  closed := gated.closed.trans (closed_mem_append_iff (by simp)).symm
  connections := by simpa [Uplink.connected] using gated.connections
  up := by
    intro _ _ connection
    simp [Uplink.connected, Gate.opened, IsUp, since_append_singleton_iff, gated.connections]

/-- The connection is gone, and nothing else happened. -/
theorem Gated.leaves (gated : Gated past before)
    (refusal : after.gate.refusal = before.gate.refusal)
    (shutdown : after.gate.shutdown = before.gate.shutdown)
    (connections : after.connections = before.connections) (gone : after.gate.connection = none) :
    Gated (past ++ [.wentAway]) after where
  refused := by
    intro fault
    rw [refusal, isRefused_append_iff (by simp)]
    exact gated.refused fault
  closed := by
    rw [shutdown, closed_mem_append_iff (by simp)]
    exact gated.closed
  connections := by simpa [connections] using gated.connections
  up := by
    intro _ _ connection
    simp [gone, IsUp, since_append_singleton_iff]

theorem Gated.refuse (gated : Gated past uplink) (fault : Fault) :
    Gated (past ++ [.refused fault]) (uplink.refuse fault) where
  refused := by
    intro other
    simp [IsRefused, since_append_singleton_iff, Uplink.refuse, Gate.refuse]
  closed := gated.closed.trans (closed_mem_append_iff (by simp)).symm
  connections := by simpa [Uplink.refuse] using gated.connections
  up := nofun

theorem Gated.close (gated : Gated past uplink) : Gated (past ++ [.closed]) uplink.close := by
  unfold Uplink.close
  split
  case isTrue closed =>
    constructor
    case refused => exact fun fault => (gated.refused fault).trans (isRefused_append_iff (by simp)).symm
    case closed => simp [closed]
    case connections => simpa using gated.connections
    case up =>
      intro _ opened
      rw [closed] at opened
      cases opened
  case isFalse =>
    constructor
    case refused => exact fun fault => (gated.refused fault).trans (isRefused_append_iff (by simp)).symm
    case closed => simp [Gate.close]
    case connections => simpa using gated.connections
    case up => exact fun _ => nofun

/-! ## Runs -/

section

variable {run : Run} {event : Event}

/-- What an event of a run attempts to publish: the topic and the payload. -/
def attempt? (run : Run) : Event → Option (String × Bytes)
  | .steps member =>
    match run.members[member]? with
    | some (.running op) => attemptOf? run.state op
    | _ => none
  | .responds requestId response =>
    some (Topic.Hub.methodResponse response.status requestId, response.payload)
  | _ => none

/-- What an event does as far as publishing is concerned. -/
inductive Deed (run : Run) : Event → Uplink → Prop
  | attempt {event : Event} {topic : String} {payload : Bytes}
      (attempts : attempt? run event = some (topic, payload)) (quiet : signs run event = []) :
      Deed run event (run.state.publish topic payload).1
  | turn (turn : Turn) : Deed run (.turns turn) (run.state.onTurn turn)
  | close {event : Event} (none : attempt? run event = none) (closes : signs run event = [.closed]) :
      Deed run event run.state.close
  | aside {event : Event} {after : Uplink} (none : attempt? run event = none)
      (quiet : signs run event = []) (same : SameGate run.state after)
      (outbox : after.outbox = run.state.outbox) : Deed run event after

theorem canStep_of_attempt {op : Op} (attempt : attemptOf? uplink op = some (topic, payload)) :
    uplink.canStep op = true := by
  cases op <;> first | rfl | cases attempt

theorem signs_of_ne {member : Nat}
    (stays : run.members[member]? ≠ some (.running (.begin .close))) :
    signs run (.steps member) = [] := by
  simp only [signs]

theorem deed_steps (run : Run) (member : Nat) :
    Deed run (.steps member) (act run (.steps member)).state := by
  by_cases moves : ∃ op, run.members[member]? = some (.running op) ∧ run.state.canStep op = true
  case pos =>
    obtain ⟨op, held, can⟩ := moves
    have attempts : attempt? run (.steps member) = attemptOf? run.state op := by
      simp only [attempt?, held]
    rw [act_steps held can, Crew.state_follow]
    cases attempt : attemptOf? run.state op with
    | some published =>
      rw [(step_of_attempt attempt).1]
      refine .attempt (attempts.trans attempt) (signs_of_ne ?_)
      rw [held]
      rintro ⟨⟩
      cases attempt
    | none =>
      by_cases closes : op = .begin .close
      · subst closes
        exact .close (attempts.trans attempt) (by simp only [signs, held])
      · refine .aside (attempts.trans attempt) (signs_of_ne ?_) (sameGate_step closes)
          (outbox_step_of_none attempt)
        rw [held]
        exact fun same => closes (Progress.running.inj (Option.some.inj same))
  case neg =>
    have idle : act run (.steps member) = run := by
      refine @Crew.advance_induction _ _ _ _ run member (· = run) _ rfl ?_
      intro op move notes held allowed
      refine absurd ⟨op, held, ?_⟩ moves
      unfold onStep at allowed
      split at allowed
      case isTrue can => exact can
      case isFalse => cases allowed
    rw [idle]
    refine .aside ?_ (signs_of_ne fun closes => moves ⟨_, closes, rfl⟩) (.refl _) rfl
    simp only [attempt?]
    split
    case h_1 op held =>
      cases attempt : attemptOf? run.state op with
      | none => rfl
      | some published => exact absurd ⟨op, held, canStep_of_attempt attempt⟩ moves
    case h_2 => rfl

theorem deed_act (run : Run) (event : Event) : Deed run event (act run event).state := by
  cases event with
  | begins call => exact .aside rfl rfl (.refl _) rfl
  | arrives topic payload => exact .aside rfl rfl (sameGate_accept ..) (outbox_accept ..)
  | responds requestId response => exact .attempt rfl rfl
  | turns turn => exact .turn turn
  | steps member => exact deed_steps run member
  | timesOut member =>
    refine @Crew.advance_induction _ _ _ _ run member (Deed run (.timesOut member) ·.state) _
      (.aside rfl rfl (.refl _) rfl) ?_
    intro op move notes held allowed
    unfold onTimeUp at allowed
    split at allowed
    case isTrue late =>
      obtain ⟨rfl, _⟩ := Prod.mk.inj (Option.some.inj allowed)
      refine .aside rfl rfl ?_ (outbox_timeUp ..)
      cases op <;> exact ⟨rfl, rfl⟩
    case isFalse => cases allowed
  | givesUp member =>
    refine @Crew.advance_induction _ _ _ _ run member (Deed run (.givesUp member) ·.state) _
      (.aside rfl rfl (.refl _) rfl) ?_
    intro op move notes held allowed
    unfold onGivingUp at allowed
    split at allowed
    case h_1 | h_2 =>
      obtain ⟨rfl, _⟩ := Prod.mk.inj (Option.some.inj allowed)
      exact .aside rfl rfl ⟨rfl, rfl⟩ rfl
    case h_3 => cases allowed

theorem gated_act (gated : Gated past run.state) (event : Event) :
    Gated (past ++ signs run event) (act run event).state := by
  have deed := deed_act run event
  generalize (act run event).state = later at deed ⊢
  cases deed with
  | attempt attempts quiet =>
    rw [quiet, List.append_nil]
    exact gated.same (sameGate_publish ..)
  | close none closes =>
    rw [closes]
    exact gated.close
  | aside none quiet same outbox =>
    rw [quiet, List.append_nil]
    exact gated.same same
  | turn turn =>
    cases turn with
    | connected => exact gated.connected
    | lost failure | disconnected => exact gated.leaves rfl rfl rfl rfl
    | refused fault => exact gated.refuse fault
    | enters phase | announces status reason => exact (List.append_nil past).symm ▸ gated.same ⟨rfl, rfl⟩
    | broken =>
      have same : SameGate run.state run.state.breakConnection := by
        unfold breakConnection
        split <;> exact ⟨rfl, rfl⟩
      exact (List.append_nil past).symm ▸ gated.same same

theorem gated_onward (gated : Gated past run.state) (events : List Event) :
    Gated (past ++ history run events) (onward run events).state := by
  induction events generalizing run past with
  | nil =>
    rw [history, List.append_nil]
    exact gated
  | cons event events ih =>
    rw [history, ← List.append_assoc]
    exact ih (gated_act gated event)

/-! ## What the history says of an attempt -/

theorem Gated.refusal_eq_none (gated : Gated past uplink)
    (unrefused : ∀ fault, .refused fault ∉ past) : uplink.gate.refusal = none := by
  cases refusal : uplink.gate.refusal with
  | none => rfl
  | some fault =>
    obtain ⟨early, late, rfl, _⟩ := (gated.refused fault).1 refusal
    exact absurd (List.mem_append_right early List.mem_cons_self) (unrefused fault)

theorem Gated.publish_of_refused (gated : Gated past uplink) (refused : IsRefused fault past) :
    uplink.publish topic payload = (uplink, .error fault) :=
  publish_of_refusal ((gated.refused fault).2 refused) topic payload

theorem Gated.publish_of_absent (gated : Gated past uplink)
    (unrefused : ∀ fault, .refused fault ∉ past)
    (absent : .closed ∈ past ∨ ∀ connection, ¬ IsUp connection past) :
    uplink.publish topic payload = (uplink, .error .notConnected) := by
  have refusal := gated.refusal_eq_none unrefused
  have barred : ∀ connection, uplink.gate.pass ≠ .ok connection := by
    intro connection passed
    obtain ⟨_, opened, healthy, through⟩ := (uplink.gate.pass_eq_ok_iff connection).1 passed
    rcases absent with closed | down
    · rw [gated.closed.2 closed] at opened
      cases opened
    · exact down connection ((gated.up refusal opened connection).1 ⟨healthy, through⟩)
  simp only [publish, Gate.pass_eq_notConnected refusal barred]

theorem Gated.pass_of_up (gated : Gated past uplink) (unrefused : ∀ fault, .refused fault ∉ past)
    (opened : .closed ∉ past) (up : IsUp connection past) : uplink.gate.pass = .ok connection := by
  have refusal := gated.refusal_eq_none unrefused
  have open' : uplink.gate.shutdown = false := by
    rw [← Bool.not_eq_true, gated.closed]
    exact opened
  have through := (gated.up refusal open' connection).2 up
  exact (uplink.gate.pass_eq_ok_iff connection).2 ⟨refusal, open', through⟩

/-- Once the credentials were refused or the client was closed, nothing is handed to a connection. -/
theorem Gated.outbox_of_barred (gated : Gated past uplink)
    (barred : (∃ fault, .refused fault ∈ past) ∨ .closed ∈ past) :
    (uplink.publish topic payload).1 = uplink := by
  by_cases refused : ∃ fault, .refused fault ∈ past
  · obtain ⟨fault, refused⟩ := exists_isRefused refused
    rw [gated.publish_of_refused refused]
  · have unrefused : ∀ fault, .refused fault ∉ past := fun fault told => refused ⟨fault, told⟩
    rw [gated.publish_of_absent unrefused (.inl (barred.resolve_left refused))]

/-! ## What an event comes to -/

theorem state_act_of_attempt (attempts : attempt? run event = some (topic, payload)) :
    (act run event).state = (run.state.publish topic payload).1 := by
  have deed := deed_act run event
  generalize (act run event).state = later at deed ⊢
  cases deed with
  | attempt attempts' quiet =>
    obtain ⟨rfl, rfl⟩ := Prod.mk.inj (Option.some.inj (attempts.symm.trans attempts'))
    rfl
  | turn turn => cases attempts
  | close none | aside none =>
    rw [none] at attempts
    cases attempts

theorem outbox_act_of_none (none : attempt? run event = none) :
    (act run event).state.outbox = run.state.outbox := by
  have deed := deed_act run event
  generalize (act run event).state = later at deed ⊢
  cases deed with
  | attempt attempts quiet =>
    rw [none] at attempts
    cases attempts
  | turn turn =>
    cases turn with
    | broken =>
      simp only [onTurn, breakConnection]
      split <;> rfl
    | _ => rfl
  | close none closes => exact outbox_close run.state
  | aside none quiet same outbox => exact outbox

/-- Whoever attempts to publish with an event fails with a fault, or does not fail; nobody hears what
becomes of the response to a method request. -/
def Hears (run : Run) (event : Event) (fault : Option Fault) : Prop :=
  ∀ member, event = .steps member → ((act run event).members[member]?).bind faultOf? = fault

theorem hears_of_attempt (attempts : attempt? run event = some (topic, payload)) :
    Hears run event
      (match (run.state.publish topic payload).2 with
      | .ok _ => none
      | .error fault => some fault) := by
  rintro member rfl
  simp only [attempt?] at attempts
  split at attempts
  case h_1 op held =>
    rw [members_steps held (canStep_of_attempt attempts), Option.bind_some]
    exact (step_of_attempt attempts).2
  case h_2 => cases attempts

/-- An attempt that fails hands nothing to a connection. -/
theorem fails_of_attempt (attempts : attempt? run event = some (topic, payload))
    (failed : run.state.publish topic payload = (run.state, .error fault)) :
    (act run event).state.outbox = run.state.outbox ∧ Hears run event (some fault) := by
  have hears := hears_of_attempt attempts
  rw [failed] at hears
  rw [state_act_of_attempt attempts, failed]
  exact ⟨rfl, hears⟩

/-- Who has failed with a fault ends with it. -/
theorem faultOf_act {member : Nat} (failed : (run.members[member]?).bind faultOf? = some fault)
    (event : Event) : ((act run event).members[member]?).bind faultOf? = some fault := by
  obtain ⟨progress, held, failed'⟩ := Option.bind_eq_some_iff.1 failed
  have stays : ∀ {later : Run}, later.members[member]? = some progress →
      (later.members[member]?).bind faultOf? = some fault := by
    intro later held'
    rw [held', ← held, failed]
  refine @act_induction (fun later => (later.members[member]?).bind faultOf? = some fault) run event
    ?_ ?_ (fun _ _ => stays held) (fun _ _ => stays held) failed
  · exact fun call _ => stays (Crew.member_enter _ held)
  · intro other op told move held' moved
    by_cases same : member = other
    · subst same
      rw [Crew.member_follow_self held']
      obtain rfl := Option.some.inj (held.symm.trans held')
      -- Of the calls that are under way, only a twin request has failed.
      cases op with
      | abandoning request requestId reason =>
        obtain rfl := Option.some.inj failed'
        cases moved with
        | abandon => cases request <;> rfl
        | aside before => cases before
      | _ => cases failed'
    · exact stays (Crew.member_follow_of_ne held' same held)

theorem faultOf_onward {member : Nat} (failed : (run.members[member]?).bind faultOf? = some fault)
    (events : List Event) : ((onward run events).members[member]?).bind faultOf? = some fault :=
  List.foldlRecOn (motive := fun after : Run => (after.members[member]?).bind faultOf? = some fault)
    events act failed fun _ failed event _ => faultOf_act failed event

theorem ends_of_faultOf {member : Nat} (failed : (run.members[member]?).bind faultOf? = some fault) :
    ∃ answer, (act run (.steps member)).members[member]? = some (.ended answer) := by
  obtain ⟨progress, held, failed'⟩ := Option.bind_eq_some_iff.1 failed
  cases progress with
  | ended answer => exact ⟨answer, by simp only [act, Crew.advance, held]⟩
  | running op =>
    cases op with
    | abandoning request requestId reason => exact ⟨_, members_steps held rfl⟩
    | _ => cases failed'

/-! ## The gate follows the history -/

/-- What it means that publishing goes by the history of a client, for the attempts that come next and
in whatever follows. -/
structure FollowsHistory (past : List Sign) (run : Run) : Prop where
  /-- Once the credentials were refused, every attempt fails with the fault that was recorded, whether or
  not the client is closed. -/
  refused : ∀ fault, IsRefused fault past →
    ∀ event topic payload, attempt? run event = some (topic, payload) →
      (act run event).state.outbox = run.state.outbox ∧ Hears run event (some fault)
  /-- Else an attempt fails for want of a connection when the client was closed or no connection is
  up. -/
  absent : (∀ fault, .refused fault ∉ past) →
    (.closed ∈ past ∨ ∀ connection, ¬ IsUp connection past) →
    ∀ event topic payload, attempt? run event = some (topic, payload) →
      (act run event).state.outbox = run.state.outbox ∧ Hears run event (some .notConnected)
  /-- Else the publication is handed to the connection that is up, unless that takes no more. -/
  handed : (∀ fault, .refused fault ∉ past) → .closed ∉ past → ∀ connection, IsUp connection past →
    ∀ event topic payload, attempt? run event = some (topic, payload) →
      if connection ∈ run.state.broken then
        (act run event).state.outbox = run.state.outbox ∧ Hears run event (some brokenFault)
      else
        (act run event).state.outbox = run.state.outbox ++
            [{ connection, topic, guarantee := run.state.settings.guarantee, payload }] ∧
          Hears run event none
  /-- Nothing else is handed to a connection. -/
  silent : ∀ event, attempt? run event = none → (act run event).state.outbox = run.state.outbox
  /-- Whoever has failed stays so and ends with its next step. -/
  fails : ∀ member fault, (run.members[member]?).bind faultOf? = some fault →
    (∀ events, ((onward run events).members[member]?).bind faultOf? = some fault) ∧
      ∃ answer, (act run (.steps member)).members[member]? = some (.ended answer)
  /-- After a refusal and after the client was closed nothing is handed to a connection any more,
  whatever comes up. -/
  barred : (∃ fault, .refused fault ∈ past) ∨ .closed ∈ past →
    ∀ events, (onward run events).state.outbox = run.state.outbox
  /-- What is published later is handed to the connection that came up last or to a later one. -/
  newer : ∀ events, ∃ sent, (onward run events).state.outbox = run.state.outbox ++ sent ∧
    ∀ publication ∈ sent, past.count .cameUp ≤ publication.connection + 1

theorem Gated.handed (gated : Gated past run.state) (unrefused : ∀ fault, .refused fault ∉ past)
    (opened : .closed ∉ past) (up : IsUp connection past)
    (attempts : attempt? run event = some (topic, payload)) :
    if connection ∈ run.state.broken then
      (act run event).state.outbox = run.state.outbox ∧ Hears run event (some brokenFault)
    else
      (act run event).state.outbox = run.state.outbox ++
          [{ connection, topic, guarantee := run.state.settings.guarantee, payload }] ∧
        Hears run event none := by
  have passed := gated.pass_of_up unrefused opened up
  split
  case isTrue broken =>
    refine fails_of_attempt attempts ?_
    simp only [publish, passed, if_pos broken]
  case isFalse whole =>
    have hears := hears_of_attempt attempts
    simp only [publish, passed, if_neg whole] at hears
    rw [state_act_of_attempt attempts]
    refine ⟨?_, hears⟩
    simp only [publish, passed, if_neg whole]

theorem Gated.barred (gated : Gated past run.state)
    (barred : (∃ fault, .refused fault ∈ past) ∨ .closed ∈ past) (events : List Event) :
    (onward run events).state.outbox = run.state.outbox := by
  induction events generalizing run past with
  | nil => rfl
  | cons event events ih =>
    have still : (act run event).state.outbox = run.state.outbox := by
      cases attempts : attempt? run event with
      | none => exact outbox_act_of_none attempts
      | some published => rw [state_act_of_attempt attempts, gated.outbox_of_barred barred]
    have barred' : (∃ fault, .refused fault ∈ past ++ signs run event) ∨
        .closed ∈ past ++ signs run event :=
      barred.imp (Exists.imp fun _ => List.mem_append_left _) (List.mem_append_left _)
    exact (ih (gated_act gated event) barred').trans still

/-- What is published is handed to the connection that came up last. -/
theorem Gated.newest (gated : Gated past uplink) :
    ∃ sent, (uplink.publish topic payload).1.outbox = uplink.outbox ++ sent ∧
      ∀ publication ∈ sent, past.count .cameUp ≤ publication.connection + 1 := by
  unfold publish
  split
  case h_1 => exact ⟨[], (List.append_nil _).symm, nofun⟩
  case h_2 connection passed =>
    obtain ⟨refusal, opened, through⟩ := (uplink.gate.pass_eq_ok_iff connection).1 passed
    have up := (gated.up refusal opened connection).1 through
    split
    case isTrue => exact ⟨[], (List.append_nil _).symm, nofun⟩
    case isFalse =>
      refine ⟨_, rfl, ?_⟩
      intro publication member
      rw [List.mem_singleton.1 member]
      exact Nat.le_of_eq up.2

theorem Gated.newer (gated : Gated past run.state) (events : List Event) :
    ∃ sent, (onward run events).state.outbox = run.state.outbox ++ sent ∧
      ∀ publication ∈ sent, past.count .cameUp ≤ publication.connection + 1 := by
  induction events generalizing run past with
  | nil => exact ⟨[], (List.append_nil _).symm, nofun⟩
  | cons event events ih =>
    obtain ⟨later, grown, newer⟩ := ih (gated_act gated event)
    have first : ∃ sent, (act run event).state.outbox = run.state.outbox ++ sent ∧
        ∀ publication ∈ sent, past.count .cameUp ≤ publication.connection + 1 := by
      cases attempts : attempt? run event with
      | none => exact ⟨[], by rw [outbox_act_of_none attempts, List.append_nil], nofun⟩
      | some published =>
        obtain ⟨topic, payload⟩ := published
        rw [state_act_of_attempt attempts]
        exact gated.newest
    obtain ⟨sent, grown', newer'⟩ := first
    refine ⟨sent ++ later, ?_, ?_⟩
    · rw [← List.append_assoc, ← grown']
      exact grown
    · intro publication member
      rcases List.mem_append.1 member with early | late
      · exact newer' publication early
      · refine Nat.le_trans ?_ (newer publication late)
        rw [List.count_append]
        exact Nat.le_add_right _ _

theorem followsHistory_of_gated (gated : Gated past run.state) : FollowsHistory past run where
  refused := fun _ refused _ _ _ attempts => fails_of_attempt attempts (gated.publish_of_refused refused)
  absent := fun unrefused absent _ _ _ attempts =>
    fails_of_attempt attempts (gated.publish_of_absent unrefused absent)
  handed := fun unrefused opened _ up _ _ _ => gated.handed unrefused opened up
  silent := fun _ => outbox_act_of_none
  fails := fun _ _ failed => ⟨faultOf_onward failed, ends_of_faultOf failed⟩
  barred := gated.barred
  newer := gated.newer

end

/-! ## Clients with a supervisor -/

namespace Supervisor

/-- A fault says that the hub refused the credentials of an identity. -/
def Denies (identity : Identity) (fault : Fault) : Prop :=
  ∃ reason, fault = .unauthorized identity.toText reason

/-- What happened to a client is a number of turns of its connection, of which only a refusal of the hub
records a fault. -/
def Turned (before after : Uplink) : Prop :=
  ∃ turns : List Turn, after = turns.foldl onTurn before ∧
    ∀ fault, .refused fault ∈ turns → Denies before.identity fault

variable {supervisor : Supervisor}

theorem turned_giveUp (supervisor : Supervisor) (uplink : Uplink) (text : String) :
    Turned uplink (supervisor.giveUp uplink text).1 :=
  ⟨[.disconnected, .enters (.failed text), .announces .disconnected .retryExpired], rfl, by simp⟩

theorem turned_cancel (supervisor : Supervisor) (uplink : Uplink) :
    Turned uplink (supervisor.cancel uplink).1 :=
  ⟨[.disconnected, .enters .disconnected, .announces .disabled .clientClose], rfl, by simp⟩

theorem turned_acceptRefusal (supervisor : Supervisor) (uplink : Uplink) (reason : StatusReason) :
    Turned uplink (supervisor.acceptRefusal uplink reason).1 := by
  refine ⟨[.refused (.unauthorized uplink.identity.toText
    (uplink.gate.lastError.getD unexplainedRefusal)),
    .enters (.failed (uplink.gate.lastError.getD unexplainedRefusal)),
    .announces .disconnected reason], rfl, ?_⟩
  intro fault refused
  exact ⟨_, by simpa using refused⟩

theorem turned_observe (supervisor : Supervisor) (uplink : Uplink) (cameUp : Bool)
    (event : ConnectionEvent) : Turned uplink (supervisor.observe uplink cameUp event).1 := by
  cases event with
  | accepted => exact ⟨[.connected, .announces .connected .connectionOk], rfl, by simp⟩
  | published => exact ⟨[], rfl, by simp⟩
  | unheard => exact ⟨[.disconnected], rfl, by simp⟩
  | ended => exact ⟨[.lost "server sent disconnect"], rfl, by simp⟩
  | failed failure text => exact ⟨[.lost text], rfl, by simp⟩

theorem turned_decide (supervisor : Supervisor) (uplink : Uplink) (reason : StatusReason)
    (fatal : Bool) (elapsed interval : Nat) :
    Turned uplink (supervisor.decide uplink reason fatal elapsed interval).1 := by
  unfold decide pause
  split <;> [exact turned_cancel ..; skip]
  split <;> [exact turned_acceptRefusal ..; skip]
  split <;> [skip; exact turned_giveUp ..]
  split
  case h_1 => exact turned_giveUp ..
  case h_2 =>
    exact ⟨[.enters .reconnecting, .announces .disconnectedRetrying reason], rfl, by simp⟩

/-- Whatever the input, the supervisor has changed the client by turns of the connection only. -/
theorem turned_step (supervisor : Supervisor) (uplink : Uplink) (input : Input) :
    Turned uplink (supervisor.step uplink input).1 := by
  have same : Turned uplink uplink := ⟨[], rfl, by simp⟩
  cases input with
  | proceed elapsed interval =>
    simp only [step, proceed]
    split
    case h_1 =>
      split <;> [exact turned_cancel ..; exact ⟨[.enters .connecting], rfl, by simp⟩]
    case h_2 => split <;> [exact ⟨[.disconnected], rfl, by simp⟩; exact same]
    case h_3 => exact turned_decide ..
    case h_4 => split <;> [exact turned_cancel ..; exact same]
    case h_5 => exact same
  | event event =>
    simp only [step]
    split <;> [exact turned_observe ..; exact same]
  | timeUp =>
    simp only [step]
    split <;> exact same

theorem onward_turns (run : Uplink.Run) (turns : List Turn) :
    Uplink.onward run (turns.map .turns) = run.drift (turns.foldl onTurn run.state) [] := by
  induction turns generalizing run with
  | nil => simp [Uplink.onward, Crew.drift]
  | cons turn turns ih =>
    rw [List.map_cons, Uplink.onward, List.foldl_cons, ← Uplink.onward, ih]
    simp [Uplink.act, Crew.drift]

theorem refused_mem_history_turns (run : Uplink.Run) (turns : List Turn) (fault : Fault)
    (told : .refused fault ∈ history run (turns.map .turns)) : .refused fault ∈ turns := by
  induction turns generalizing run with
  | nil => cases told
  | cons turn turns ih =>
    rw [List.map_cons, history, List.mem_append] at told
    rcases told with first | later
    · cases turn <;> simp [signs] at first
      simp [first]
    · exact List.mem_cons_of_mem turn (ih _ later)

theorem refused_not_mem_signs {event : Uplink.Event} (foreign : event.isForeign = true)
    (run : Uplink.Run) (fault : Fault) : .refused fault ∉ signs run event := by
  cases event with
  | turns turn =>
    cases turn with
    | broken => exact List.not_mem_nil
    | _ => cases foreign
  | steps member =>
    simp only [signs]
    split <;> simp
  | _ => simp [signs]

/-- The client of a supervised run is that of a run without a supervisor, in which the connection takes
the turns that the supervisor says; every refusal among them denies the identity of the client. -/
theorem exists_run_client (identity : Identity) (settings : Settings.Hub)
    (router : Topic.Router Destination) (policy : Retry.Policy) (events : List Event) :
    ∃ moves : List Uplink.Event,
      (run (fresh identity settings router) policy events).client =
        (fresh identity settings router).run moves ∧
      ∀ fault, .refused fault ∈ history { state := fresh identity settings router } moves →
        Denies identity fault := by
  induction events using List.reverseRecOn with
  | nil => exact ⟨[], rfl, fun _ told => absurd told List.not_mem_nil⟩
  | append_singleton events event ih =>
    obtain ⟨moves, same, denies⟩ := ih
    have own := (inOrder_run identity settings router policy events).identity
    rw [run_append]
    generalize run (fresh identity settings router) policy events = reached at same own ⊢
    -- One event of the supervised run is a number of events of the client.
    have further : ∃ more : List Uplink.Event,
        (act reached event).client = Uplink.onward reached.client more ∧
          ∀ fault, .refused fault ∈ history reached.client more → Denies identity fault := by
      cases event with
      | client event =>
        simp only [act]
        split
        case isTrue foreign =>
          refine ⟨[event], rfl, ?_⟩
          intro fault told
          rw [history, history, List.append_nil] at told
          exact absurd told (refused_not_mem_signs foreign reached.client fault)
        case isFalse => exact ⟨[], rfl, fun _ told => absurd told List.not_mem_nil⟩
      | supervisor input =>
        obtain ⟨turns, turned, refusals⟩ := turned_step reached.supervisor reached.client.state input
        rw [own] at refusals
        refine ⟨turns.map .turns, ?_, ?_⟩
        · simp only [act, turned, onward_turns]
        · exact fun fault told => refusals fault (refused_mem_history_turns _ _ _ told)
    obtain ⟨more, same', denies'⟩ := further
    refine ⟨moves ++ more, ?_, ?_⟩
    · rw [Uplink.run_append, ← same]
      exact same'
    · intro fault told
      rw [history_append, List.mem_append] at told
      rcases told with early | late
      · exact denies fault early
      · refine denies' fault ?_
        rw [same]
        exact late

end Supervisor

/-- What it means that the gate of a client follows what became of it. -/
structure GateFollowsHistory (identity : Identity) (settings : Settings.Hub)
    (router : Topic.Router Destination) : Prop where
  /-- The connection may come and go, the credentials may be refused and the client may be closed in any
  order, among any calls and publications of the hub. -/
  follows : ∀ events, FollowsHistory (history { state := fresh identity settings router } events)
    ((fresh identity settings router).run events)
  /-- A client with a supervisor is such a client, and its refusals say that the identity is not
  authorized. -/
  supervised : ∀ policy events, ∃ moves : List Event,
    (Supervisor.run (fresh identity settings router) policy events).client =
      (fresh identity settings router).run moves ∧
    ∀ fault, .refused fault ∈ history { state := fresh identity settings router } moves →
      Supervisor.Denies identity fault

/-- An attempt to publish is handed to the connection that came up last just when it has not gone since,
nothing was refused and the client was not closed; else it fails with the refusal or for want of a
connection, and nothing is handed to anybody. -/
theorem gateFollowsHistory_fresh (identity : Identity) (settings : Settings.Hub)
    (router : Topic.Router Destination) : GateFollowsHistory identity settings router where
  follows := by
    intro events
    have begins : Gated [] ({ state := fresh identity settings router } : Run).state :=
      gated_fresh identity settings router
    have gated := gated_onward begins events
    rw [List.nil_append] at gated
    exact followsHistory_of_gated gated
  supervised := Supervisor.exists_run_client identity settings router

/-- A connection that comes up after the client was closed does not open the gate. -/
example (identity : Identity) (settings : Settings.Hub) (router : Topic.Router Destination) :
    ((fresh identity settings router).connected.close.connected.publish "" []).2 =
      .error .notConnected := rfl

end Uplink

end DeviceGateway
