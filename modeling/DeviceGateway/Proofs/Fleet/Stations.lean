/-
# One client in a run

What an event does to one client and to its supervisor.  A client changes in few ways: by calls and
publications, which leave alone what the supervisor has said; by an input of the supervisor; when the
registry begins to hear it; and when its next announcement is told.

Only the supervisor records that the hub has refused the credentials, and only after the hub has.  From
then on nothing is published through the client any more, whoever calls it, and all that is left to
happen is that the last announcement is told.
-/

import DeviceGateway.Proofs.Fleet.Replacement
import DeviceGateway.Proofs.Supervisor.Endings
import Mathlib.Data.List.Induction

namespace DeviceGateway

namespace Uplink.Supervisor

variable {supervisor : Supervisor} {uplink : Uplink} {input : Input}

/-- What is seen of a connection is what has happened on it. -/
theorem input_of_met {event : ConnectionEvent} (seen : .met event ∈ supervisor.notesOf uplink input) :
    input = .event event := by
  simp only [notesOf, news, List.mem_append, List.mem_map] at seen
  rcases seen with (met | attempted) | ⟨_, _, announced⟩
  · split at met
    case h_1 =>
      obtain rfl := Note.met.inj (List.mem_singleton.1 met)
      rfl
    case h_2 => cases met
  · split at attempted
    case isTrue => cases List.mem_singleton.1 attempted
    case isFalse => cases attempted
  · cases announced

/-- A connection is lost for good only where the hub refuses the credentials. -/
theorem refused_of_lost {cameUp : Bool} {reason : StatusReason}
    (lost : (supervisor.step uplink input).2.position = .lost cameUp reason true) :
    (supervisor.position = .lost cameUp reason true ∧ (supervisor.step uplink input).1 = uplink) ∨
      reason = .expiredCredential ∧ ∃ failure text, input = .event (.failed failure text) ∧
        failure.isFatal = true ∧ (supervisor.step uplink input).1.gate.lastError = some text := by
  have steps := steps_step supervisor uplink input
  have seen : ∀ event, .met event ∈ supervisor.notesOf uplink input → input = .event event :=
    fun event => input_of_met
  generalize supervisor.notesOf uplink input = notes at steps seen
  generalize (supervisor.step uplink input).1 = after at steps ⊢
  generalize (supervisor.step uplink input).2 = next at steps lost
  cases steps with
  | stay same =>
    subst same
    exact .inl ⟨lost, rfl⟩
  | @lose _ event _ _ before finished reached _ _ _ last =>
    right
    obtain ⟨_, rfl, refusal⟩ := Position.lost.inj (reached.symm.trans lost)
    obtain ⟨failure, text, rfl, fatal, ends⟩ := isFatal_of_isRefusal refusal
    obtain rfl := Option.some.inj (finished.symm.trans ends)
    exact ⟨rfl, failure, text, seen _ (List.mem_singleton.2 rfl), fatal, last failure text rfl⟩
  | publish before reached | wake before reached | attempt before reached | accept before reached
  | leave _ before reached | cancel _ before reached | refuse before reached
  | exhaust before _ reached | retry _ before reached =>
    rw [reached] at lost
    cases lost

/-- A supervisor that records a refusal ends with it. -/
theorem accepts_of_refusal {fault : Fault} (opened : uplink.gate.refusal = none)
    (refused : (supervisor.step uplink input).1.gate.refusal = some fault) :
    ∃ cameUp reason, supervisor.position = .lost cameUp reason true ∧
      (supervisor.step uplink input).2.hasEnded = true ∧
      (supervisor.step uplink input).1 = (supervisor.acceptRefusal uplink reason).1 := by
  have steps := steps_step supervisor uplink input
  generalize supervisor.notesOf uplink input = notes at steps
  generalize (supervisor.step uplink input).1 = after at steps refused ⊢
  generalize (supervisor.step uplink input).2 = next at steps ⊢
  have same : after.gate.refusal ≠ uplink.gate.refusal := by
    rw [opened, refused]
    exact nofun
  cases steps with
  | @refuse cameUp reason before reached => exact ⟨cameUp, reason, before, by simp [hasEnded, reached], rfl⟩
  | lose _ _ _ _ _ refusal => exact absurd refusal same
  | _ => exact absurd rfl same

end Uplink.Supervisor

namespace Fleet

open Registry (Result)

/-! ## What an event does to a client -/

/-- What an event does to the client with a number. -/
inductive Turn (event : Event) (number : Nat) (before : Station) : Station → Prop
  | silent {uplink : Uplink} (silent : Uplink.Silent before.uplink uplink) :
      Turn event number before { before with uplink }
  | supervises {input : Uplink.Supervisor.Input} (its : event = .supervises number input)
      (idle : before.told = before.uplink.announced.length) :
      Turn event number before { before with
        uplink := (before.supervisor.step before.uplink input).1
        supervisor := (before.supervisor.step before.uplink input).2 }
  | hears : Turn event number before { before with heard := true }
  | tells {kept : Bool} (its : event = .tells number kept)
      (next : before.told < before.uplink.announced.length) :
      Turn event number before { before with told := before.told + 1 }

theorem Turn.rests (event : Event) (number : Nat) (station : Station) :
    Turn event number station station := .silent (.refl station.uplink)

/-- The client with a number was created in a fleet. -/
def Arises (fleet after : Fleet) (number : Nat) (station : Station) : Prop :=
  ∃ identity settings router, after = fleet.add identity settings router ∧
    number = fleet.stations.length ∧
    station = { uplink := .fresh identity settings router, supervisor := .new settings.retryPolicy }

/-- Where the client with a number comes from when an event has happened. -/
def Comes (fleet : Fleet) (event : Event) (after : Fleet) (number : Nat) (station : Station) : Prop :=
  (∃ before, fleet.stations[number]? = some before ∧ Turn event number before station) ∨
    Arises fleet after number station

variable {fleet after : Fleet} {run : Run} {event : Event} {member number : Nat} {op : Op}
  {notes : List Note} {move : Move Fleet Op Result} {station before : Station}

theorem comes_of_same (same : after.stations[number]? = fleet.stations[number]?)
    (held : after.stations[number]? = some station) : Comes fleet event after number station :=
  .inl ⟨station, same.symm.trans held, .rests event number station⟩

theorem comes_of_change {other : Nat} {turn : Station → Station}
    (same : after.stations = (fleet.change other turn).stations)
    (turns : ∀ before, other = number → fleet.stations[number]? = some before →
      Turn event number before (turn before))
    (held : after.stations[number]? = some station) : Comes fleet event after number station := by
  rw [same] at held
  by_cases own : other = number
  · subst own
    obtain ⟨before, was, rfl⟩ : ∃ before, fleet.stations[other]? = some before ∧
        turn before = station := by simpa [change] using held
    exact .inl ⟨before, was, turns before rfl was⟩
  · rw [getElem?_change_of_ne own] at held
    exact .inl ⟨station, held, .rests event number station⟩

theorem comes_of_moves (moved : Moves fleet op notes move)
    (held : move.state.stations[number]? = some station) :
    Comes fleet event move.state number station := by
  cases moved with
  | step can => exact comes_of_same (by rw [state_ofRegistryMove]) held
  | call waits => exact comes_of_same rfl held
  | @client purpose caller inner call caller' move stamp held' moved =>
    have turns : ∀ before, caller = number → fleet.stations[number]? = some before →
        Turn event number before { before with uplink := move.state } := by
      rintro before rfl was
      obtain rfl := Option.some.inj (held'.symm.trans was)
      exact .silent (Uplink.silent_of_moves moved)
    refine comes_of_change ?_ turns held
    cases move with
    | go uplink call => rfl
    | done uplink answer =>
      rw [ofCallMove, state_ofRegistryMove]
      rfl
  | provide identity ticket settings router =>
    have grown : (fleet.add identity settings router).stations = fleet.stations ++
        [{ uplink := .fresh identity settings router, supervisor := .new settings.retryPolicy }] := rfl
    by_cases within : number < fleet.stations.length
    · exact comes_of_same (by rw [Move.state_go, grown, List.getElem?_append_left within]) held
    · rw [Move.state_go, grown, List.getElem?_append_right (Nat.le_of_not_lt within),
        List.getElem?_singleton] at held
      split at held
      case isTrue first =>
        exact .inr ⟨identity, settings, router, rfl, by omega, (Option.some.inj held).symm⟩
      case isFalse => cases held
  | fail identity ticket fault => exact comes_of_same rfl held
  | attach identity ticket made => exact comes_of_change rfl (fun _ _ _ => .hears) held
  | map identity ticket made => exact comes_of_same rfl held

theorem comes_of_drifts {other : Nat} (drifts : Drifts fleet event other after)
    (held : after.stations[number]? = some station) : Comes fleet event after number station := by
  cases drifts with
  | rests => exact comes_of_same rfl held
  | changes silent => exact comes_of_change rfl (fun before _ _ => .silent (silent before.uplink)) held
  | supervises its held' idle =>
    refine comes_of_change rfl ?_ held
    rintro before rfl was
    obtain rfl := Option.some.inj (held'.symm.trans was)
    exact .supervises its idle
  | @tells kept its station status reason next feed =>
    refine comes_of_change rfl ?_ held
    rintro before rfl was
    refine .tells its ?_
    simp only [next?, was, Option.map_eq_some_iff, Prod.mk.injEq] at next
    obtain ⟨_, found, _⟩ := next
    exact (List.getElem?_eq_some_iff.1 found).1
  | loops inbox happened => exact comes_of_same rfl held

/-- After an event every client is one that was there before, or that the provider has created. -/
theorem comes_act (run : Run) (event : Event)
    (held : (act run event).state.stations[number]? = some station) :
    Comes run.state event (act run event).state number station := by
  refine @act_induction (fun later => ∀ station, later.state.stations[number]? = some station →
    Comes run.state event later.state number station) run event ?now ?launches ?moves ?drifts
      station held
  case now => exact fun _ held => comes_of_same rfl held
  case launches => exact fun _ _ _ comes => comes
  case moves => exact fun _ _ _ _ _ _ moved _ held => comes_of_moves moved held
  case drifts => exact fun _ _ _ drifts _ held => comes_of_drifts drifts held

/-- A client stays, whatever happens. -/
theorem turn_act (sound : Sound run) (held : run.state.stations[number]? = some before)
    (event : Event) : ∃ after, (act run event).state.stations[number]? = some after ∧
      Turn event number before after := by
  have within : number < (act run event).state.stations.length := by
    have here := (List.getElem?_eq_some_iff.1 held).1
    rw [sound.paired] at here
    obtain ⟨_, found, _⟩ := grows_act run event number _ (List.getElem?_eq_getElem here)
    rw [(sound_act sound event).paired]
    exact (List.getElem?_eq_some_iff.1 found).1
  have found := List.getElem?_eq_getElem within
  refine ⟨_, found, ?_⟩
  rcases comes_act run event found with ⟨before', held', turn⟩ | ⟨_, _, _, _, rfl, _⟩
  · obtain rfl := Option.some.inj (held.symm.trans held')
    exact turn
  · exact absurd (List.getElem?_eq_some_iff.1 held).1 (Nat.lt_irrefl _)

/-! ## Who was refused -/

/-- What is known about a client after a list of events: whose it is, and what has happened when its
connection is lost for good. -/
structure Known (events : List Event) (fleet : Fleet) (number : Nat) (station : Station) : Prop where
  belongs : Belongs fleet number station.uplink.identity
  lost : ∀ cameUp reason, station.supervisor.position = .lost cameUp reason true →
    reason = .expiredCredential ∧ ∃ failure text,
      .supervises number (.event (.failed failure text)) ∈ events ∧ failure.isFatal = true ∧
        station.uplink.gate.lastError = some text

theorem Known.turn {events : List Event} (known : Known events fleet number before)
    (grows : Registry.Grows fleet.registry after.registry) (turn : Turn event number before station) :
    Known (events ++ [event]) after number station := by
  have more : ∀ {earlier}, earlier ∈ events → earlier ∈ events ++ [event] := List.mem_append_left _
  have same : station.uplink.identity = before.uplink.identity := by
    cases turn with
    | silent silent => exact silent.aside.identity
    | supervises its idle => exact Uplink.Supervisor.identity_steps (Uplink.Supervisor.steps_step ..)
    | hears | tells => rfl
  refine ⟨same ▸ known.belongs.grows grows, ?_⟩
  intro cameUp reason lost
  have kept : before.supervisor.position = .lost cameUp reason true →
      station.uplink.gate.lastError = before.uplink.gate.lastError →
        reason = .expiredCredential ∧ ∃ failure text,
          .supervises number (.event (.failed failure text)) ∈ events ++ [event] ∧
            failure.isFatal = true ∧ station.uplink.gate.lastError = some text := by
    intro lost still
    obtain ⟨expired, failure, text, happened, fatal, last⟩ := known.lost cameUp reason lost
    exact ⟨expired, failure, text, more happened, fatal, still.trans last⟩
  cases turn with
  | silent silent => exact kept lost (Uplink.Supervisor.lastError_aside silent.aside)
  | supervises its idle =>
    rcases Uplink.Supervisor.refused_of_lost lost with ⟨lost, still⟩ | ⟨expired, failure, text, rfl, rest⟩
    · exact kept lost (congrArg (·.gate.lastError) still)
    · subst its
      exact ⟨expired, failure, text, List.mem_append_right _ (List.mem_singleton.2 rfl), rest⟩
  | hears | tells => exact kept lost rfl

theorem known_run (receiveTimeout : Nat) (events : List Event)
    (held : (Fleet.run receiveTimeout events).state.stations[number]? = some station) :
    Known events (Fleet.run receiveTimeout events).state number station := by
  induction events using List.reverseRecOn generalizing station with
  | nil => cases held
  | append_singleton events event ih =>
    have sound := sound_run receiveTimeout events
    rw [run_append] at held ⊢
    rcases comes_act _ event held with ⟨before, was, turn⟩ | ⟨identity, settings, router, same, own, rfl⟩
    · exact (ih was).turn (grows_act _ event) turn
    · -- A client that the provider has created has not tried to connect.
      refine ⟨⟨(Fleet.run receiveTimeout events).state.registry.newSession identity, ?_, rfl⟩, nofun⟩
      have state : (onward (Fleet.run receiveTimeout events) [event]).state =
          (Fleet.run receiveTimeout events).state.add identity settings router := same
      rw [state, own, sound.paired]
      simp [add]

/-! ## Refused clients -/

/-- The fault that a client has for its calls since its credentials were refused. -/
def refusal? (fleet : Fleet) (number : Nat) : Option Fault :=
  fleet.stations[number]?.bind fun station => station.uplink.gate.refusal

/-- Whether the registry hears what the client with a number announces. -/
def hears (fleet : Fleet) (number : Nat) : Bool :=
  fleet.stations[number]?.any fun station => station.heard

/-- Everything that the client with a number has announced was told. -/
def Told (fleet : Fleet) (number : Nat) : Prop :=
  ∀ station, fleet.stations[number]? = some station → station.told = station.uplink.announced.length

/-- How a client is left when the refusal of its credentials was recorded, with the announcement of the
refusal still to be told to the registry. -/
structure Refused (station : Station) (fault : Fault) : Prop where
  heard : station.heard = true
  refusal : station.uplink.gate.refusal = some fault
  ended : station.supervisor.hasEnded = true
  announced : ∃ earlier, station.uplink.announced = earlier ++ [(.disconnected, .expiredCredential)] ∧
    earlier.length ≤ station.told

/-- When a refusal is recorded, the hub has refused the credentials before. -/
theorem refused_of_refusal (receiveTimeout : Nat) (events : List Event) (event : Event) {fault : Fault}
    (heard : (Fleet.run receiveTimeout events).state.hears number = true)
    (opened : (Fleet.run receiveTimeout events).state.refusal? number = none)
    (refused : (Fleet.run receiveTimeout (events ++ [event])).state.refusal? number = some fault) :
    ∃ station, (Fleet.run receiveTimeout (events ++ [event])).state.stations[number]? = some station ∧
      Refused station fault ∧ station.told < station.uplink.announced.length ∧ ∃ failure text,
        .supervises number (.event (.failed failure text)) ∈ events ∧ failure.isFatal = true ∧
          fault = .unauthorized station.uplink.identity.toText text := by
  obtain ⟨station, held, refusal⟩ := Option.bind_eq_some_iff.1 refused
  obtain ⟨before, was, listening⟩ := (Option.any_eq_true _ _).1 heard
  have open' : before.uplink.gate.refusal = none := by simpa [refusal?, was] using opened
  have known := known_run receiveTimeout events was
  refine ⟨station, held, ?_⟩
  have sound := sound_run receiveTimeout events
  rw [run_append] at held
  obtain ⟨station', held', turn⟩ := turn_act sound was event
  obtain rfl := Option.some.inj (held.symm.trans held')
  cases turn with
  | silent silent =>
    rw [Uplink.Supervisor.refusal_aside silent.aside, open'] at refusal
    cases refusal
  | hears | tells =>
    rw [open'] at refusal
    cases refusal
  | supervises its idle =>
    obtain ⟨cameUp, reason, lost, ended, accepted⟩ :=
      Uplink.Supervisor.accepts_of_refusal open' refusal
    obtain ⟨rfl, failure, text, happened, fatal, last⟩ := known.lost cameUp reason lost
    have said : before.uplink.gate.lastError.getD Uplink.Supervisor.unexplainedRefusal = text := by
      rw [last, Option.getD_some]
    have announced : (before.uplink.announced ++ [(.disconnected, .expiredCredential)]) =
        (before.supervisor.acceptRefusal before.uplink .expiredCredential).1.announced := rfl
    rw [← accepted] at announced
    refine ⟨⟨listening, refusal, ended, before.uplink.announced, announced.symm, Nat.le_of_eq idle.symm⟩,
      ?_, failure, text, happened, fatal, ?_⟩
    · rw [← announced, idle, List.length_append]
      exact Nat.lt_succ_self _
    · simp only [accepted] at refusal ⊢
      rw [← Option.some.inj refusal, ← said]
      rfl

/-- What happens to a client that was refused: nothing is published, nothing is announced, and its last
announcement is told. -/
theorem Refused.turn {fault : Fault} (refused : Refused before fault)
    (turn : Turn event number before station) :
    Refused station fault ∧ station.uplink.outbox = before.uplink.outbox ∧
      station.uplink.announced = before.uplink.announced ∧
      (station.told = before.told ∨ ∃ kept, event = .tells number kept ∧
        before.told < before.uplink.announced.length ∧ station.told = before.told + 1) := by
  obtain ⟨heard, refusal, ended, earlier, announced, told⟩ := refused
  cases turn with
  | @silent uplink silent =>
    have same : uplink.announced = before.uplink.announced := silent.aside.announced
    exact ⟨⟨heard, (Uplink.Supervisor.refusal_aside silent.aside).trans refusal, ended, earlier,
      same.trans announced, told⟩, silent.outbox (by simp [refusal]), same, .inl rfl⟩
  | supervises its idle =>
    rw [Uplink.Supervisor.step_of_hasEnded ended]
    exact ⟨⟨heard, refusal, ended, earlier, announced, told⟩, rfl, rfl, .inl rfl⟩
  | hears => exact ⟨⟨rfl, refusal, ended, earlier, announced, told⟩, rfl, rfl, .inl rfl⟩
  | tells its next =>
    exact ⟨⟨heard, refusal, ended, earlier, announced, Nat.le_succ_of_le told⟩, rfl, rfl,
      .inr ⟨_, its, next, rfl⟩⟩

/-- Until everything was told, the announcement that is told next is the one of the refusal. -/
theorem Refused.next? {fault : Fault} (refused : Refused station fault)
    (held : fleet.stations[number]? = some station)
    (untold : station.told < station.uplink.announced.length) :
    fleet.next? number = some (station, .disconnected, .expiredCredential) := by
  obtain ⟨earlier, announced, told⟩ := refused.announced
  have last : station.told = earlier.length := by
    rw [announced, List.length_append, List.length_singleton] at untold
    omega
  have found : station.uplink.announced[station.told]? = some (.disconnected, .expiredCredential) := by
    rw [announced, last, List.getElem?_append_right (Nat.le_refl _), Nat.sub_self]
    rfl
  simp [Fleet.next?, held, found]

end Fleet

end DeviceGateway
