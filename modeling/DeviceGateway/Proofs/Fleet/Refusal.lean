/-
# Refused credentials end in a session that can be replaced

When the hub refuses the credentials of a client, two ways lead to the end of its session: whoever sends
meets the fault of the refusal and closes the session, and so does the operation that starts when the
registry hears the announcement of the client.  Both may go on at the same time, with further sends and
with others who ask for a session of the identity.

Whichever way is faster, nothing is published any more, the client is closed once, and the session ends
closed.  Another one can be made in its place, and what is left to happen at the old one does not touch
it.

The session ends unmapped as well, unless it was not mapped in the first place.  The registry hears a
client before its session is mapped, so that the session may be closed and forgotten in between; the
operation that had made it then maps a session that is closed already.
-/

import DeviceGateway.Proofs.Fleet.Closing
import DeviceGateway.Proofs.Fleet.Eviction
import DeviceGateway.Proofs.Fleet.Finding
import DeviceGateway.Proofs.Fleet.Sending

namespace DeviceGateway

namespace Fleet

open Registry (Result)

section

variable {earlier run : Run} {member number : Nat} {identity : Identity} {fault : Fault} {first : Station}

/-! ## From the refusal on -/

/-- What is kept of a session whose client was refused, from the moment on when that was recorded.  It is
kept unmapped as well if at an earlier moment nobody was still to map it. -/
structure Winding (first : Station) (earlier run : Run) (number : Nat) (identity : Identity)
    (fault : Fault) : Prop where
  sound : Sound run
  belongs : Belongs run.state number identity
  made : Made earlier number → Made run number
  station : ∃ station, run.state.stations[number]? = some station ∧ Refused station fault ∧
    station.uplink.outbox = first.uplink.outbox ∧
    -- The announcement is still to be told, or an operation was started that closes the session.
    (station.told < station.uplink.announced.length ∨
      (Leaving run number ∨ Closed run.state number) ∧
        (Made earlier number → Leaving run number ∨ Unmapped run.state number))

theorem winding_act (winding : Winding first earlier run number identity fault) (event : Event) :
    Winding first earlier (act run event) number identity fault where
  sound := sound_act winding.sound event
  belongs := winding.belongs.grows (grows_act run event)
  made := fun early => made_act winding.belongs (winding.made early) event
  station := by
    obtain ⟨sound, belongs, made, before, held, refused, outbox, goes⟩ := winding
    obtain ⟨after, held', turn⟩ := turn_act sound held event
    obtain ⟨refused', silent, announced, told⟩ := refused.turn turn
    refine ⟨after, held', refused', silent.trans outbox, ?_⟩
    rcases goes with untold | ⟨closed, unmapped⟩
    · rcases told with same | ⟨kept, rfl, _, _⟩
      · left
        rw [announced, same]
        exact untold
      · right
        have leaving := leaving_tells sound belongs kept refused.heard (refused.next? held untold) rfl
        exact ⟨leaving.imp_right And.left, fun _ => leaving.imp_right And.right⟩
    · exact .inr ⟨closed_act sound belongs closed event,
        fun early => gone_act sound belongs (made early) (unmapped early) event⟩

theorem winding_onward (winding : Winding first earlier run number identity fault)
    (events : List Event) : Winding first earlier (onward run events) number identity fault :=
  @onward_induction (Winding first earlier · number identity fault)
    (fun _ event winding => winding_act winding event) run winding events

/-- The client of a session has still something to tell, or somebody closes the session and then forgets
it. -/
def Departing (run : Run) (number : Nat) : Prop :=
  (∃ station, run.state.stations[number]? = some station ∧
    station.told < station.uplink.announced.length) ∨ Leaving run number

/-- As long as the eviction is not over, the moment that counts can be taken to be the present one. -/
theorem Winding.anew (winding : Winding first earlier run number identity fault)
    (departing : Departing run number) : Winding first run run number identity fault := by
  obtain ⟨sound, belongs, _, station, held, refused, outbox, _⟩ := winding
  refine ⟨sound, belongs, id, station, held, refused, outbox, ?_⟩
  rcases departing with ⟨station', held', untold⟩ | leaving
  · obtain rfl := Option.some.inj (held.symm.trans held')
    exact .inl untold
  · exact .inr ⟨.inl leaving, fun _ => .inl leaving⟩

theorem Winding.barred (winding : Winding first earlier run number identity fault) :
    Barred run number fault := by
  obtain ⟨station, held, refused, _⟩ := winding.station
  exact ⟨winding.sound, station, held, refused⟩

/-- Whoever closes a session and then forgets it deals with that session. -/
theorem minds_of_evicts {fleet : Fleet} {op : Op} (evicts : Evicts fleet number op) :
    op.Minds number := by
  cases op with
  | plain op =>
    cases op with
    | onSession purpose other inner =>
      cases purpose with
      | eviction => exact evicts.1
      | request | closing => exact evicts.elim
    | evict identity => trivial
    | _ => exact evicts.elim
  | calling purpose other inner call =>
    cases purpose with
    | eviction => exact evicts.1
    | request | closing => exact evicts.elim
  | attaching | mapping => exact evicts.elim

/-- Whoever still has to close a client deals with its session. -/
theorem minds_of_owes {op : Op} (owed : op.owes number = true) : op.Minds number := by
  cases op with
  | plain op =>
    cases op with
    | onSession purpose other inner => exact beq_iff_eq.1 (Bool.and_eq_true_iff.1 owed).1
    | _ => cases owed
  | calling purpose other inner call => exact beq_iff_eq.1 (Bool.and_eq_true_iff.1 owed).1
  | attaching | mapping => cases owed

/-- No operation deals with the session with a number, or forgets one that is closed. -/
def Quiet (run : Run) (number : Nat) : Prop := run.AllAt fun op => ¬ op.Minds number

theorem Winding.gone (winding : Winding first earlier run number identity fault)
    (told : Told run.state number) (quiet : Quiet run number) :
    Closed run.state number ∧ (Made earlier number → Unmapped run.state number) := by
  obtain ⟨station, held, _, _, goes⟩ := winding.station
  have stayed : ¬ Leaving run number := by
    rintro ⟨member, op, held, evicts⟩
    exact quiet member op held (minds_of_evicts evicts)
  rcases goes with untold | ⟨closed, unmapped⟩
  · rw [told station held] at untold
    exact absurd untold (Nat.lt_irrefl _)
  · exact ⟨closed.resolve_left stayed, fun early => (unmapped early).resolve_left stayed⟩

theorem Quiet.owes_eq_false (quiet : Quiet run number) : ∀ progress ∈ run.members,
    owes number progress = false := by
  intro progress among
  obtain ⟨member, held⟩ := List.getElem?_of_mem among
  cases progress with
  | ended result => rfl
  | running op =>
    by_contra owed
    exact quiet member op held (minds_of_owes (by simpa [owes] using owed))

end

/-! ## The end of the session -/

/-- What has become of a session and its client at some later moment when the refusal of the credentials
was recorded with a fault. -/
structure Replaceable (recorded later : Run) (number : Nat) (identity : Identity) (fault : Fault) :
    Prop where
  /-- Nothing was published through the client. -/
  outbox : ∀ station, recorded.state.stations[number]? = some station → ∃ station',
    later.state.stations[number]? = some station' ∧ station'.uplink.outbox = station.uplink.outbox
  /-- Whoever is still to publish a message ends with the fault of the refusal. -/
  refused : ∀ member op, later.members[member]? = some (.running op) → op.Publishes number →
    EndsWith later member (.session (.done (.error fault)))
  /-- Whoever begins to send when the session is closed ends with the fault that says so. -/
  shut : Closed later.state number → ∀ message,
    EndsWith (act later (.requests number (.send message))) later.members.length
      (.session (.done (.error (.sessionClosed identity.toText))))
  /-- Nobody closes the client a second time. -/
  once : closings later number ≤ 1
  /-- When all announcements were told and nobody deals with the session any more, it is closed, and its
  client was closed once. -/
  gone : Told later.state number → Quiet later number →
    Closed later.state number ∧ closings later number = 1
  /-- Its eviction is still to come when the refusal is recorded. -/
  departing : Departing recorded number
  /-- Nobody is still to map it if it is mapped when the refusal is recorded. -/
  settled : recorded.state.registry.numberOf? identity = some number → Made recorded number
  /-- It is not mapped either in the end, if nobody was still to map it at some moment before its eviction
  was over. -/
  unmapped : ∀ middle rest, later = onward (onward recorded middle) rest →
    Departing (onward recorded middle) number → Made (onward recorded middle) number →
      Told later.state number → Quiet later number → Unmapped later.state number
  /-- Whoever asks for a session of the identity when this one is closed gets another one. -/
  replaced : Closed later.state number → Replaces later number identity
  /-- An operation on the session goes on to deal with that session. -/
  minding : ∀ member op, later.members[member]? = some (.running op) → op.Minds number →
    ∀ events, Minding (onward later events) member number
  /-- Whatever else happens at the client, at the session or in such an operation leaves all other
  sessions and their clients alone. -/
  spared : ∀ event other, Concerns later number event → number ≠ other →
    Spares later.state (act later event).state other

/-- Where the hub refuses the credentials of a client that the registry hears, its session begins to end. -/
theorem winding_of_refusal (receiveTimeout : Nat) (events : List Event) (event : Event)
    {number : Nat} {identity : Identity} {fault : Fault}
    (owned : Belongs (run receiveTimeout events).state number identity)
    (heard : (run receiveTimeout events).state.hears number = true)
    (opened : (run receiveTimeout events).state.refusal? number = none)
    (recorded : (run receiveTimeout (events ++ [event])).state.refusal? number = some fault) :
    ∃ station, (run receiveTimeout (events ++ [event])).state.stations[number]? = some station ∧
      station.told < station.uplink.announced.length ∧
      Winding station (run receiveTimeout (events ++ [event])) (run receiveTimeout (events ++ [event]))
        number identity fault ∧
      ∃ failure text, .supervises number (.event (.failed failure text)) ∈ events ∧
        failure.isFatal = true ∧ fault = .unauthorized identity.toText text := by
  obtain ⟨station, held, refused, untold, failure, text, happened, fatal, same⟩ :=
    refused_of_refusal receiveTimeout events event heard opened recorded
  have belongs : Belongs (run receiveTimeout (events ++ [event])).state number identity := by
    rw [run_append]
    exact owned.grows (grows_act _ event)
  have own : station.uplink.identity = identity := by
    obtain ⟨session, found, known⟩ := (known_run receiveTimeout _ held).belongs
    obtain ⟨session', found', known'⟩ := belongs
    obtain rfl := Option.some.inj (found.symm.trans found')
    exact known.symm.trans known'
  rw [own] at same
  exact ⟨station, held, untold,
    ⟨sound_run .., belongs, id, station, held, refused, rfl, .inl untold⟩,
    failure, text, happened, fatal, same⟩

/-- A session that has begun to end is replaceable, however the run goes on. -/
theorem Winding.replaceable {receiveTimeout : Nat} {events more : List Event} {station : Station}
    {number : Nat} {identity : Identity} {fault : Fault} (unauthorized : fault.isUnauthorized = true)
    (held : (run receiveTimeout events).state.stations[number]? = some station)
    (untold : station.told < station.uplink.announced.length)
    (winding : Winding station (run receiveTimeout events) (run receiveTimeout events) number identity
      fault) :
    Replaceable (run receiveTimeout events) (run receiveTimeout (events ++ more)) number identity
      fault := by
  have whole : run receiveTimeout (events ++ more) = onward (run receiveTimeout events) more :=
    run_append ..
  have balanced := balanced_run receiveTimeout (events ++ more) number
  have turns := owned_run receiveTimeout (events ++ more)
  have now := winding_onward winding more
  rw [← whole] at now
  exact {
    outbox := by
      intro station' found
      obtain rfl := Option.some.inj (held.symm.trans found)
      obtain ⟨after, held, _, silent, _⟩ := now.station
      exact ⟨after, held, silent⟩
    refused := fun member op held publishes =>
      endsWith_of_publishes now.barred unauthorized held publishes
    shut := fun closed message => endsWith_of_closed closed now.belongs message
    once := balanced.closings_le_one
    gone := by
      intro told quiet
      have closed := (now.gone told quiet).1
      exact ⟨closed, balanced.closings_eq_one closed quiet.owes_eq_false⟩
    departing := .inl ⟨station, held, untold⟩
    settled := settled_run receiveTimeout events identity number
    unmapped := by
      intro middle rest between departing made told quiet
      have late := winding_onward ((winding_onward winding middle).anew departing) rest
      rw [← between] at late
      exact (late.gone told quiet).2 made
    replaced := fun closed => replaces_of_closed now.sound turns closed now.belongs
    minding := fun member op held minds events => minding_onward
      ⟨.running op, held, fun _ same => Progress.running.inj same ▸ minds⟩ events
    spared := fun event other concerns apart => spares_act now.sound concerns apart }

/-- When the hub has refused the credentials of a client whom the registry hears, every send fails from
the moment on when that is recorded, nothing is published, the client is closed once, and the session ends
closed and ready to be replaced, whatever happens in between; and it ends unmapped, if nobody was still to
map it. -/
theorem replaceable_of_refusal (receiveTimeout : Nat) (events more : List Event) (event : Event)
    {number : Nat} {identity : Identity} {fault : Fault}
    (owned : Belongs (run receiveTimeout events).state number identity)
    (heard : (run receiveTimeout events).state.hears number = true)
    (opened : (run receiveTimeout events).state.refusal? number = none)
    (recorded : (run receiveTimeout (events ++ [event])).state.refusal? number = some fault) :
    (∃ failure text, .supervises number (.event (.failed failure text)) ∈ events ∧
        failure.isFatal = true ∧ fault = .unauthorized identity.toText text) ∧
      Replaceable (run receiveTimeout (events ++ [event])) (run receiveTimeout (events ++ event :: more))
        number identity fault := by
  obtain ⟨station, held, untold, winding, failure, text, happened, fatal, same⟩ :=
    winding_of_refusal receiveTimeout events event owned heard opened recorded
  have unauthorized : fault.isUnauthorized = true := by rw [same, Fault.isUnauthorized]
  refine ⟨⟨failure, text, happened, fatal, same⟩, ?_⟩
  rw [List.append_cons events event more]
  exact winding.replaceable unauthorized held untold

open Session (sensor)

/-- The hub refuses the credentials of a client that is about to publish a message. -/
def overtaken : List Event :=
  created ++ List.replicate 3 (.steps 0 "") ++ .requests 0 (.send {}) :: List.replicate 3 (.steps 1 "") ++
    refusal.dropLast

/-- The operation that starts with the announcement turns the session inactive before the send comes to
that, and both go on to their end. -/
def contested : List Event :=
  .tells 0 false :: List.replicate 4 (.steps 2 "") ++ List.replicate 9 (.steps 1 "") ++
    List.replicate 2 (.steps 2 "")

theorem replaceable_of_refusal_overtaken :
    Belongs (run 20000 overtaken).state 0 sensor ∧
      (run 20000 overtaken).state.hears 0 = true ∧
      (run 20000 overtaken).state.refusal? 0 = none ∧
      (run 20000 (overtaken ++ [.supervises 0 (.proceed 0 0)])).state.refusal? 0 =
        some (.unauthorized sensor.toText "not authorized") ∧
      (run 20000 (overtaken ++ .supervises 0 (.proceed 0 0) :: contested)).members =
        [.ended (.found (.ok 0)),
          .ended (.session (.done (.error (.unauthorized sensor.toText "not authorized")))),
          .ended .evicted] ∧
      Replaceable (run 20000 (overtaken ++ [.supervises 0 (.proceed 0 0)]))
        (run 20000 (overtaken ++ .supervises 0 (.proceed 0 0) :: contested)) 0 sensor
        (.unauthorized sensor.toText "not authorized") := by
  have owned : Belongs (run 20000 overtaken).state 0 sensor := ⟨_, rfl, rfl⟩
  exact ⟨owned, rfl, rfl, rfl, rfl,
    (replaceable_of_refusal 20000 overtaken contested (.supervises 0 (.proceed 0 0)) owned rfl rfl
      rfl).2⟩

/-- The registry hears the client, and its credentials are refused before the session is mapped. -/
def refusedUnmapped : List Event := created ++ .steps 0 "" :: refusal.dropLast

/-- The session is closed and forgotten, and then mapped by the operation that had made it. -/
def mappedLate : List Event := .tells 0 false :: eviction ++ List.replicate 2 (.steps 0 "")

/-- In the end all operations are over, all announcements were told, and the session is closed and
mapped. -/
theorem mapped_of_refusal :
    (run 20000 refusedUnmapped).state.hears 0 = true ∧
      (run 20000 refusedUnmapped).state.refusal? 0 = none ∧
      (run 20000 (refusedUnmapped ++ [.supervises 0 (.proceed 0 0)])).state.refusal? 0 =
        some (.unauthorized sensor.toText "not authorized") ∧
      (run 20000 (refusedUnmapped ++ .supervises 0 (.proceed 0 0) :: mappedLate)).members =
        [.ended (.found (.ok 0)), .ended .evicted] ∧
      Told (run 20000 (refusedUnmapped ++ .supervises 0 (.proceed 0 0) :: mappedLate)).state 0 ∧
      Closed (run 20000 (refusedUnmapped ++ .supervises 0 (.proceed 0 0) :: mappedLate)).state 0 ∧
      (run 20000 (refusedUnmapped ++ .supervises 0 (.proceed 0 0) :: mappedLate)).state.registry.numberOf?
        sensor = some 0 := by
  refine ⟨rfl, rfl, rfl, rfl, ?_, ⟨_, rfl, rfl⟩, rfl⟩
  intro station held
  obtain rfl := Option.some.inj held
  rfl

end Fleet

end DeviceGateway
