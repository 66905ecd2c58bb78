/-
# Sessions whose client is lost

When a client announces that there is no return, and the registry hears it, an operation starts that
closes the session and then forgets it.  Whatever happens meanwhile, once all operations are over the
session is closed; and it is not mapped, unless it was closed before the operation that had made it came
to map it.

An announcement that is told to nobody starts nothing.  The client is at work as soon as the provider
has created it, and the registry hears it only after that, so that the announcement of a client that is
lost at once may go unheard; its session then stays active and mapped.
-/

import DeviceGateway.Proofs.Fleet.Replacement
import DeviceGateway.Proofs.Session.Overtaking

namespace DeviceGateway

namespace Fleet

open Registry (Result)

section

variable {fleet after : Fleet} {run : Run} {number : Nat} {op : Op} {notes : List Note}
  {move : Move Fleet Op Result} {identity : Identity}

/-- The session with a number is not mapped. -/
def Unmapped (fleet : Fleet) (number : Nat) : Prop :=
  ∀ identity, fleet.registry.numberOf? identity ≠ some number

/-- Whether an operation closes the session with a number and then forgets it. -/
def Evicts (fleet : Fleet) (number : Nat) : Op → Prop
  | .plain (.onSession .eviction other op) =>
    other = number ∧ (op.isClaiming = true ∨ Closed fleet number)
  | .calling .eviction other _ _ => other = number ∧ Closed fleet number
  | .plain (.evict identity) => Belongs fleet number identity ∧ Closed fleet number
  | _ => False

theorem Evicts.grows (evicts : Evicts fleet number op)
    (grows : Registry.Grows fleet.registry after.registry) : Evicts after number op := by
  cases op with
  | plain op =>
    cases op with
    | onSession purpose other op =>
      cases purpose with
      | eviction => exact ⟨evicts.1, evicts.2.imp_right (·.grows grows)⟩
      | request | closing => exact evicts
    | evict identity => exact ⟨evicts.1.grows grows, evicts.2.grows grows⟩
    | _ => exact evicts
  | calling purpose other op call =>
    cases purpose with
    | eviction => exact ⟨evicts.1, evicts.2.grows grows⟩
    | request | closing => exact evicts
  | attaching | mapping => exact evicts

/-! ## What becomes of an operation that closes and forgets a session -/

/-- A session that goes on to be closed, or that is closed, is on its way out. -/
theorem evicts_ofSessionMove {registry : Registry} {earlier : Session}
    (held : registry.sessions[number]? = some earlier)
    {moved : Move Session Session.Op Session.Result}
    (goes : (∃ state later, moved = .go state later ∧ later.isClaiming = true) ∨
      moved.state.active = false) :
    ∃ later, (fleet.ofRegistryMove
        (registry.ofSessionMove .eviction number moved)).progress = .running later ∧
      Evicts (fleet.ofRegistryMove (registry.ofSessionMove .eviction number moved)).state number
        later := by
  have held' : (registry.putSession number moved.state).sessions[number]? = some moved.state :=
    Registry.getElem?_putSession_self held
  cases moved with
  | go state op =>
    refine ⟨.plain (.onSession .eviction number op), rfl, rfl, ?_⟩
    rcases goes with ⟨state', later, same, claims⟩ | inactive
    · obtain ⟨rfl, rfl⟩ := Move.go.inj same
      exact .inl claims
    · exact .inr ⟨state, held', inactive⟩
  | done state result =>
    have inactive : state.active = false := by
      rcases goes with ⟨state', later, same, _⟩ | inactive
      · cases same
      · exact inactive
    have found : (registry.putSession number state).sessions[number]? = some state := held'
    refine ⟨.plain (.evict state.identity), ?_, ?_, ?_⟩
    · simp [Registry.ofSessionMove, Registry.afterSession, found, ofRegistryMove]
    · rw [state_ofRegistryMove, Registry.state_ofSessionMove]
      exact ⟨state, held', rfl⟩
    · rw [state_ofRegistryMove, Registry.state_ofSessionMove]
      exact ⟨state, held', inactive⟩

/-- Forgetting a closed session forgets it wherever it is mapped. -/
theorem unmapped_evictInactive (sound : Sound run) (belongs : Belongs run.state number identity)
    (closed : Closed run.state number) (other : Identity) :
    (run.state.registry.evictInactive identity).numberOf? other ≠ some number := by
  obtain ⟨session, held, same⟩ := belongs
  have own : ∀ other, run.state.registry.numberOf? other = some number → other = identity := by
    intro other found
    obtain ⟨session', held', same'⟩ := sound.named other number found
    obtain rfl := Option.some.inj (held.symm.trans held')
    exact same'.symm.trans same
  unfold Registry.evictInactive
  split
  case h_1 mapped found' =>
    split
    case isTrue active =>
      intro found
      obtain rfl := own other found
      obtain rfl := Option.some.inj (found'.symm.trans found)
      rw [closed.isActive] at active
      cases active
    case isFalse =>
      intro found
      obtain ⟨apart, was⟩ := Registry.numberOf?_of_unmap found
      exact apart (own other was)
  case h_2 missing =>
    intro found
    obtain rfl := own other found
    rw [missing] at found
    cases found

theorem evicts_step (sound : Sound run) (belongs : Belongs run.state number identity)
    {op : Registry.Op} (can : run.state.registry.canStep op = true)
    (evicts : Evicts run.state number (.plain op)) :
    (∃ later, (run.state.ofRegistryMove (run.state.registry.step op)).progress = .running later ∧
        Evicts (run.state.ofRegistryMove (run.state.registry.step op)).state number later) ∨
      Closed (run.state.ofRegistryMove (run.state.registry.step op)).state number ∧
        Unmapped (run.state.ofRegistryMove (run.state.registry.step op)).state number := by
  cases op with
  | onSession purpose other inner =>
    cases purpose with
    | request | closing => exact evicts.elim
    | eviction =>
      obtain ⟨rfl, goes⟩ := evicts
      obtain ⟨session, held, _⟩ := belongs
      have closed : inner.isClaiming = false → session.active = false := by
        intro other
        rcases goes with claims | ⟨session', held', inactive⟩
        · rw [other] at claims
          cases claims
        · obtain rfl := Option.some.inj (held.symm.trans held')
          exact inactive
      left
      simp only [Registry.step, held]
      cases waits : inner.request? with
      | none =>
        apply evicts_ofSessionMove held
        cases claims : inner.isClaiming with
        | true => exact Session.isClaiming_step claims
        | false =>
          exact .inr ((Session.evolves_step session inner).inactive (closed claims))
      | some request =>
        have other : inner.isClaiming = false := by
          by_contra claims
          rw [Session.request?_of_isClaiming (by simpa using claims)] at waits
          cases waits
        cases request with
        | call call => simp [Registry.canStep, Registry.Op.request?, waits] at can
        | report status reason =>
          apply evicts_ofSessionMove (by rw [Registry.sessions_hear]; exact held)
          exact .inr ((Session.evolves_reported session inner).inactive (closed other))
  | evict other =>
    right
    have grows := (Registry.settles_evictInactive run.state.registry other).grows
    exact ⟨evicts.2.grows grows, unmapped_evictInactive sound evicts.1 evicts.2⟩
  | _ => exact evicts.elim

/-- Whoever closes a session and forgets it goes on until the session is closed and not mapped. -/
theorem evicts_of_moves (sound : Sound run) (belongs : Belongs run.state number identity)
    (moved : Moves run.state op notes move) (evicts : Evicts run.state number op) :
    (∃ later, move.progress = .running later ∧ Evicts move.state number later) ∨
      Closed move.state number ∧ Unmapped move.state number := by
  cases moved with
  | step can => exact evicts_step sound belongs can evicts
  | @call purpose other inner call waits =>
    cases purpose with
    | request | closing => exact evicts.elim
    | eviction =>
      obtain ⟨rfl, claims | closed⟩ := evicts
      · rw [Session.request?_of_isClaiming claims] at waits
        cases waits
      · exact .inl ⟨_, rfl, rfl, closed⟩
  | @client purpose other inner call station move stamp held moved =>
    cases purpose with
    | request | closing => exact evicts.elim
    | eviction =>
      obtain ⟨rfl, closed⟩ := evicts
      cases move with
      | go uplink call => exact .inl ⟨_, rfl, rfl, closed⟩
      | done uplink answer =>
        obtain ⟨session, held', inactive⟩ := closed
        left
        simp only [ofCallMove, Registry.resume, held']
        apply evicts_ofSessionMove held'
        exact .inr ((Session.evolves_resume session stamp answer inner).inactive inactive)
  | provide | fail | attach | map => exact evicts.elim

/-! ## Until all operations are over -/

/-- Some operation closes the session with a number and then forgets it. -/
def Leaving (run : Run) (number : Nat) : Prop := run.AnyAt (Evicts run.state number)

theorem unmapped_of_drifts {event : Event} {other : Nat} (drifts : Drifts fleet event other after)
    (unmapped : Unmapped fleet number) : Unmapped after number := by
  intro identity found
  exact unmapped identity ((registry_of_drifts drifts).1.settles.mapped identity number found)

/-- The operation that closes a session and forgets it is under way until that has happened. -/
theorem leaving_act (sound : Sound run) (belongs : Belongs run.state number identity)
    (leaving : Leaving run number) (event : Event) :
    Leaving (act run event) number ∨
      Closed (act run event).state number ∧ Unmapped (act run event).state number := by
  refine @act_induction (fun later => Leaving later number ∨
    Closed later.state number ∧ Unmapped later.state number) run event (.inl leaving) ?launches
      ?moves ?drifts
  case launches => exact fun run op _ found => found.imp_left (Crew.anyAt_enter _)
  case drifts =>
    intro other state _ drifts
    obtain ⟨member, op, held, evicts⟩ := leaving
    exact .inl ⟨member, op, held, evicts.grows (grows_of_drifts drifts)⟩
  case moves =>
    intro mover op notes move _ held moved
    have grows := grows_of_moves moved
    obtain ⟨member, op', held', evicts⟩ := leaving
    by_cases same : member = mover
    · subst same
      obtain rfl := Progress.running.inj (Option.some.inj (held.symm.trans held'))
      refine (evicts_of_moves sound belongs moved evicts).imp_left ?_
      rintro ⟨later, comes, evicts⟩
      exact Crew.anyAt_follow_self held comes evicts
    · exact .inl ⟨member, op', Crew.member_follow_of_ne held same held', evicts.grows grows⟩

/-- Whoever is making the session with a number. -/
def Made (run : Run) (number : Nat) : Prop :=
  run.AllAt fun op => ∀ identity, ¬ op.Makes identity number

theorem made_act (belongs : Belongs run.state number identity)
    (made : Made run number) (event : Event) : Made (act run event) number := by
  refine @act_induction (Made · number) run event made ?launches ?moves ?drifts
  case launches => exact fun run op _ made => Crew.allAt_enter made fun _ => id
  case drifts => exact fun _ _ _ _ => made
  case moves =>
    intro mover op notes move _ held moved
    refine Crew.allAt_follow held made (fun _ => id) ?_
    intro later comes maker makes
    cases effect_of_moves moved with
    | settles _ _ _ before =>
      exact made mover op held maker (before later maker number comes makes)
    | adds other ticket settings router _ reached =>
      subst reached
      obtain rfl := Progress.running.inj comes
      obtain ⟨_, rfl⟩ := makes
      obtain ⟨session, held', _⟩ := belongs
      exact Nat.lt_irrefl _ (List.getElem?_eq_some_iff.1 held').1
    | maps other ticket number' _ reached =>
      subst reached
      obtain rfl := Progress.running.inj comes
      exact makes

/-- What is mapped is made by nobody any more. -/
def Settled (run : Run) : Prop :=
  ∀ identity number, run.state.registry.numberOf? identity = some number → Made run number

theorem settled_act (sound : Sound run) (settled : Settled run) (event : Event) :
    Settled (act run event) := by
  refine @act_induction Settled run event settled ?launches ?moves ?drifts
  case launches =>
    exact fun run op _ settled identity number found =>
      Crew.allAt_enter (settled identity number found) fun _ => id
  case drifts =>
    exact fun _ state _ drifts identity number found =>
      settled identity number ((registry_of_drifts drifts).1.settles.mapped identity number found)
  case moves =>
    intro mover op notes move _ held moved identity number found
    cases effect_of_moves moved with
    | settles settles _ _ before =>
      have made := settled identity number (settles.mapped identity number found)
      exact Crew.allAt_follow held made (fun _ => id) fun later comes maker makes =>
        made mover op held maker (before later maker number comes makes)
    | adds other ticket settings router _ reached =>
      subst reached
      have made := settled identity number found
      refine Crew.allAt_follow held made (fun _ => id) ?_
      intro later comes maker makes
      obtain rfl := Progress.running.inj comes
      obtain ⟨_, rfl⟩ := makes
      obtain ⟨session, held', _⟩ := sound.named identity _ found
      exact Nat.lt_irrefl _ (List.getElem?_eq_some_iff.1 held').1
    | maps other ticket number' before reached =>
      subst before reached
      -- Nobody else makes a session while one is mapped.
      intro member later held' maker makes
      rcases members_follow_cases held held' with ⟨_, comes⟩ | ⟨apart, kept⟩
      · obtain rfl := Progress.running.inj comes
        exact makes
      · obtain ⟨ticket', creates⟩ := base_of_makes makes
        exact apart (sound.maker_unique kept held creates rfl)

theorem settled_run (receiveTimeout : Nat) (events : List Event) :
    Settled (Fleet.run receiveTimeout events) := by
  have fresh : Sound { state := fresh receiveTimeout } ∧ Settled { state := fresh receiveTimeout } := by
    refine ⟨sound_fresh receiveTimeout, ?_⟩
    intro identity number found
    cases found
  refine (@onward_induction (fun later => Sound later ∧ Settled later) ?_ _ fresh events).2
  exact fun middle event kept => ⟨sound_act kept.1 event, settled_act kept.1 kept.2 event⟩

theorem unmapped_act (made : Made run number) (unmapped : Unmapped run.state number)
    (event : Event) : Unmapped (act run event).state number := by
  refine @act_induction (Unmapped ·.state number) run event unmapped ?launches ?moves ?drifts
  case launches => exact fun _ _ _ => id
  case drifts => exact fun _ _ _ drifts => unmapped_of_drifts drifts unmapped
  case moves =>
    intro mover op notes move _ held moved identity found
    cases effect_of_moves moved with
    | settles settles => exact unmapped identity (settles.mapped identity number found)
    | adds other ticket settings router _ reached =>
      subst reached
      exact unmapped identity found
    | maps other ticket number' before reached =>
      subst before reached
      rw [Crew.state_follow, Move.state_go, Registry.numberOf?_map] at found
      split at found
      case isTrue =>
        obtain rfl := Option.some.inj found
        exact made mover _ held other ⟨rfl, rfl⟩
      case isFalse => exact unmapped identity found

/-- A session that is closed, or on its way out, goes on to be. -/
theorem closed_act (sound : Sound run) (belongs : Belongs run.state number identity)
    (leaving : Leaving run number ∨ Closed run.state number) (event : Event) :
    Leaving (act run event) number ∨ Closed (act run event).state number := by
  rcases leaving with leaving | closed
  · exact (leaving_act sound belongs leaving event).imp_right And.left
  · exact .inr (closed.grows (grows_act run event))

/-- A session that is not mapped, or on its way out, goes on to be, once nobody is making it any more. -/
theorem gone_act (sound : Sound run) (belongs : Belongs run.state number identity)
    (made : Made run number) (leaving : Leaving run number ∨ Unmapped run.state number)
    (event : Event) : Leaving (act run event) number ∨ Unmapped (act run event).state number := by
  rcases leaving with leaving | unmapped
  · exact (leaving_act sound belongs leaving event).imp_right And.right
  · exact .inr (unmapped_act made unmapped event)

/-- A session on its way out is closed in the end. -/
theorem closed_onward (sound : Sound run) (belongs : Belongs run.state number identity)
    (leaving : Leaving run number ∨ Closed run.state number) (events : List Event) :
    Leaving (onward run events) number ∨ Closed (onward run events).state number := by
  refine (@onward_induction (fun later => Sound later ∧ Belongs later.state number identity ∧
    (Leaving later number ∨ Closed later.state number)) ?_ run ⟨sound, belongs, leaving⟩ events).2.2
  rintro middle event ⟨sound, belongs, leaving⟩
  exact ⟨sound_act sound event, belongs.grows (grows_act middle event),
    closed_act sound belongs leaving event⟩

/-- A session on its way out that nobody is making is not mapped in the end. -/
theorem unmapped_onward (sound : Sound run) (belongs : Belongs run.state number identity)
    (made : Made run number) (leaving : Leaving run number ∨ Unmapped run.state number)
    (events : List Event) :
    Leaving (onward run events) number ∨ Unmapped (onward run events).state number := by
  refine (@onward_induction (fun later => Sound later ∧ Belongs later.state number identity ∧
    Made later number ∧ (Leaving later number ∨ Unmapped later.state number)) ?_ run
      ⟨sound, belongs, made, leaving⟩ events).2.2.2
  rintro middle event ⟨sound, belongs, made, leaving⟩
  exact ⟨sound_act sound event, belongs.grows (grows_act middle event),
    made_act belongs made event, gone_act sound belongs made leaving event⟩

/-! ## Announcements that are heard -/

theorem mem_mapped_of_numberOf? {registry : Registry}
    (found : registry.numberOf? identity = some number) :
    (registry.mapped.any fun entry => entry.2 == number) = true := by
  obtain ⟨entry, first, rfl⟩ := Option.map_eq_some_iff.1 found
  exact List.any_eq_true.2 ⟨entry, List.mem_of_find?_eq_some first, beq_self_eq_true _⟩

/-- A session that nobody holds is closed and not mapped. -/
theorem Sound.closed_of_not_held (sound : Sound run) (belongs : Belongs run.state number identity)
    (free : isHeld run number = false) : Closed run.state number ∧ Unmapped run.state number := by
  obtain ⟨mapped, held⟩ := Bool.or_eq_false_iff.1 free
  have unmapped : Unmapped run.state number := by
    intro identity found
    rw [mem_mapped_of_numberOf? found] at mapped
    cases mapped
  refine ⟨?_, unmapped⟩
  obtain ⟨session, found, _⟩ := belongs
  refine ⟨session, found, ?_⟩
  by_contra active
  rcases sound.active number session found (by simpa using active) with known | making
  · exact unmapped _ known
  · obtain ⟨member, op, held', makes⟩ := making
    have holds : op.holds number = true := by
      cases op with
      | attaching _ _ made | mapping _ _ made =>
        obtain ⟨_, rfl⟩ := makes
        exact beq_self_eq_true _
      | plain | calling => exact makes.elim
    have any := List.any_eq_false.1 held _ (List.mem_of_getElem? held')
    exact any holds

/-- A terminal announcement that the registry hears starts an operation that closes the session and
forgets it, unless that has come about already. -/
theorem leaving_tells (sound : Sound run) (belongs : Belongs run.state number identity)
    {station : Station} {status : ConnectionStatus} {reason : StatusReason} (kept : Bool)
    (heard : station.heard = true) (next : run.state.next? number = some (station, status, reason))
    (terminal : isTerminal status reason = true) :
    Leaving (act run (.tells number kept)) number ∨
      Closed (act run (.tells number kept)).state number ∧
        Unmapped (act run (.tells number kept)).state number := by
  have known := belongs
  obtain ⟨session, held, _⟩ := known
  cases isThere : kept || isHeld run number with
  | true =>
    left
    simp only [act, tell, next, heard, if_true, Registry.announce, held, terminal, isThere,
      Bool.and_self]
    exact ⟨run.members.length, .plain (.onSession .eviction number (.begin .close)),
      by simp [launch, Crew.enter, Crew.drift], rfl, .inl rfl⟩
  | false =>
    right
    have free := (Bool.or_eq_false_iff.1 isThere).2
    obtain ⟨closed, unmapped⟩ := sound.closed_of_not_held belongs free
    simp only [act, tell, next, heard, if_true, Registry.announce, held, isThere, Bool.and_false]
    exact ⟨closed, unmapped⟩

/-- All operations are over. -/
def Over (run : Run) : Prop := ∀ progress ∈ run.members, ∃ result, progress = .ended result

theorem Over.not_anyAt {Kind : Op → Prop} (finished : Over run) : ¬ run.AnyAt Kind := by
  rintro ⟨member, op, held, _⟩
  obtain ⟨result, ended⟩ := finished _ (List.mem_of_getElem? held)
  cases ended

end

/-! ## Once all operations are over -/

/-- What has become of a session whose client is lost, once all operations are over. -/
structure Gone (before later : Run) (number : Nat) : Prop where
  closed : Closed later.state number
  /-- It is not mapped, unless it was still to be mapped when the registry heard of its client. -/
  unmapped : Made before number → Unmapped later.state number
  /-- Whoever asks for a session of its identity from then on gets one that was made later, or the
  reason why the provider gave no client. -/
  replaced : ∀ identity, Belongs later.state number identity → ∀ events,
    Renewing (onward (act later (.finds identity)) events) later.members.length number identity

/-- When the registry hears from a client that there is no return, its session is gone once all
operations are over, whatever happens in between. -/
theorem gone_of_heard (receiveTimeout : Nat) (events more : List Event) {number : Nat}
    {station : Station} {status : ConnectionStatus} {reason : StatusReason} (kept : Bool)
    (heard : station.heard = true)
    (next : (run receiveTimeout events).state.next? number = some (station, status, reason))
    (terminal : isTerminal status reason = true)
    (finished : Over (run receiveTimeout (events ++ .tells number kept :: more))) :
    Gone (run receiveTimeout events) (run receiveTimeout (events ++ .tells number kept :: more))
      number := by
  have sound := sound_run receiveTimeout events
  have sound' := sound_run receiveTimeout (events ++ .tells number kept :: more)
  rw [run_append] at finished sound' ⊢
  generalize run receiveTimeout events = before at *
  obtain ⟨identity, belongs⟩ : ∃ identity, Belongs before.state number identity := by
    have within : number < before.state.stations.length := by
      unfold next? at next
      split at next
      case h_1 held => exact (List.getElem?_eq_some_iff.1 held).1
      case h_2 => cases next
    rw [sound.paired] at within
    exact ⟨_, _, List.getElem?_eq_getElem within, rfl⟩
  have leaving := leaving_tells sound belongs kept heard next terminal
  have told := sound_act sound (.tells number kept)
  have belongs' := belongs.grows (grows_act before (.tells number kept))
  have closed : Closed (onward before (.tells number kept :: more)).state number :=
    (closed_onward told belongs' (leaving.imp_right And.left) more).resolve_left finished.not_anyAt
  exact {
    closed
    unmapped := fun made =>
      (unmapped_onward told belongs' (made_act belongs made _) (leaving.imp_right And.right)
        more).resolve_left finished.not_anyAt
    replaced := fun identity owned events => renewing_onward sound' closed owned events }

/-! ## Two clients that are refused -/

open Session (sensor)

/-- Somebody asks for a session, and the provider creates its client. -/
def created : List Event :=
  .finds sensor :: List.replicate 4 (.steps 0 "") ++ [.provides 0 (.ok ({}, {}))]

/-- The hub refuses the credentials of the first client. -/
def refusal : List Event :=
  [.supervises 0 (.proceed 0 0),
    .supervises 0 (.event (.failed (.refused .notAuthorized) "not authorized")),
    .supervises 0 (.proceed 0 0)]

/-- The operation that closes the first session and forgets it takes all its steps. -/
def eviction : List Event := List.replicate 6 (.steps 1 "")

/-- The client is refused after its session was mapped. -/
def refusedLate : List Event := created ++ List.replicate 3 (.steps 0 "") ++ refusal

theorem gone_of_heard_refused :
    Over (run 20000 (refusedLate ++ .tells 0 false :: eviction)) ∧
      Gone (run 20000 refusedLate) (run 20000 (refusedLate ++ .tells 0 false :: eviction)) 0 := by
  have finished : Over (run 20000 (refusedLate ++ .tells 0 false :: eviction)) := by
    have members : (run 20000 (refusedLate ++ .tells 0 false :: eviction)).members =
        [.ended (.found (.ok 0)), .ended .evicted] := rfl
    simp [Over, members]
  exact ⟨finished, gone_of_heard 20000 refusedLate eviction false rfl rfl rfl finished⟩

/-- The client is refused, and its announcement told, before the registry hears it. -/
def refusedUnheard : List Event :=
  created ++ refusal ++ .tells 0 false :: List.replicate 3 (.steps 0 "")

/-- Then all operations are over, the announcement was told, and the session is active and mapped. -/
theorem active_of_unheard :
    Over (run 20000 refusedUnheard) ∧
      ((run 20000 refusedUnheard).state.stations[0]?.map fun station =>
        (station.uplink.announced, station.told)) = some ([(.disconnected, .expiredCredential)], 1) ∧
      isTerminal .disconnected .expiredCredential = true ∧
      (run 20000 refusedUnheard).state.registry.isActive 0 = true ∧
      (run 20000 refusedUnheard).state.registry.get? sensor = some 0 := by
  refine ⟨?_, rfl, rfl, rfl, rfl⟩
  have members : (run 20000 refusedUnheard).members = [.ended (.found (.ok 0))] := rfl
  simp [Over, members]

end Fleet

end DeviceGateway
