/-
# Replacing a session

Whoever asks for a session of an identity after its session was closed gets another one, made later, or
the reason why the provider gave no client.  And whatever goes on at the closed session, at its client or
in the operations on it leaves the other sessions and their clients alone: forgetting a session forgets
only one that is closed.
-/

import DeviceGateway.Proofs.Fleet.Standing

namespace DeviceGateway

namespace Fleet

open Registry (Result)

variable {fleet after : Fleet} {run : Run} {member number : Nat} {op : Op} {story later : List Note}
  {notes : List Note} {move : Move Fleet Op Result} {identity : Identity}

/-- The session with a number is closed. -/
def Closed (fleet : Fleet) (number : Nat) : Prop :=
  ∃ session, fleet.registry.sessions[number]? = some session ∧ session.active = false

/-- The session with a number belongs to an identity. -/
def Belongs (fleet : Fleet) (number : Nat) (identity : Identity) : Prop :=
  ∃ session, fleet.registry.sessions[number]? = some session ∧ session.identity = identity

theorem Closed.grows (closed : Closed fleet number)
    (grows : Registry.Grows fleet.registry after.registry) : Closed after number := by
  obtain ⟨session, held, inactive⟩ := closed
  obtain ⟨later, held', evolves⟩ := grows number session held
  exact ⟨later, held', evolves.inactive inactive⟩

theorem Belongs.grows (belongs : Belongs fleet number identity)
    (grows : Registry.Grows fleet.registry after.registry) : Belongs after number identity := by
  obtain ⟨session, held, same⟩ := belongs
  obtain ⟨later, held', evolves⟩ := grows number session held
  exact ⟨later, held', evolves.identity.trans same⟩

theorem Closed.isActive (closed : Closed fleet number) : fleet.registry.isActive number = false := by
  obtain ⟨session, held, inactive⟩ := closed
  simp [Registry.isActive, held, inactive]

theorem grows_of_drifts {event : Event} (drifts : Drifts fleet event number after) :
    Registry.Grows fleet.registry after.registry :=
  (registry_of_drifts drifts).1.settles.grows

theorem grows_act (run : Run) (event : Event) :
    Registry.Grows run.state.registry (act run event).state.registry := by
  have still := (Registry.Settles.refl run.state.registry).grows
  refine @act_induction (Registry.Grows run.state.registry ·.state.registry) run event still
    ?launches ?moves ?drifts
  case launches => exact fun _ _ _ => id
  case moves => exact fun _ _ _ _ _ _ moved => grows_of_moves moved
  case drifts => exact fun _ _ _ drifts => grows_of_drifts drifts

/-! ## Asking after a session was closed -/

/-- What somebody gets who asks for a session of an identity in the place of a closed one: a session of
the identity that was made later, or the reason why the provider gave no client. -/
def Gets (fleet : Fleet) (story : List Note) (number : Nat) (identity : Identity) :
    Answer Nat → Prop
  | .ok other => number < other ∧ Belongs fleet other identity
  | .error fault => .provided (.error fault) ∈ story

/-- How far an operation has come that was begun to find a session in the place of a closed one. -/
def Renews (fleet : Fleet) (story : List Note) (number : Nat) (identity : Identity) :
    Progress Op Result → Prop
  | .running (.plain (.find other)) | .running (.plain (.join other))
  | .running (.plain (.waiting other _)) | .running (.plain (.findAgain other _))
  | .running (.plain (.creating other _)) => other = identity
  | .running (.attaching other _ made) | .running (.mapping other _ made) =>
    other = identity ∧ Gets fleet story number identity (.ok made)
  | .running (.plain (.leave _ answer)) | .ended (.found answer) =>
    Gets fleet story number identity answer
  | _ => False

theorem Gets.grows {answer : Answer Nat} (gets : Gets fleet story number identity answer)
    (grows : Registry.Grows fleet.registry after.registry) (more : story ⊆ later) :
    Gets after later number identity answer := by
  cases answer with
  | ok other => exact ⟨gets.1, gets.2.grows grows⟩
  | error fault => exact more gets

theorem Renews.grows {progress : Progress Op Result}
    (renews : Renews fleet story number identity progress)
    (grows : Registry.Grows fleet.registry after.registry) (more : story ⊆ later) :
    Renews after later number identity progress := by
  cases progress with
  | running op =>
    cases op with
    | attaching other ticket made | mapping other ticket made =>
      exact ⟨renews.1, renews.2.grows grows more⟩
    | calling purpose other op call => exact renews
    | plain op =>
      cases op with
      | leave ticket answer => exact Gets.grows renews grows more
      | _ => exact renews
  | ended result =>
    cases result with
    | found answer => exact Gets.grows renews grows more
    | closed _ | session _ | evicted => exact renews

/-- The session that is found in the place of a closed one was made later. -/
theorem later_of_get? (sound : Sound run) (closed : Closed run.state number)
    (belongs : Belongs run.state number identity) {other : Nat}
    (found : run.state.registry.get? identity = some other) :
    number < other ∧ Belongs run.state other identity := by
  obtain ⟨mapped, active⟩ := Registry.get?_eq_some_iff.1 found
  obtain ⟨session, held, same⟩ := sound.named identity other mapped
  obtain ⟨session', held', running⟩ := Registry.isActive_iff.1 active
  obtain rfl := Option.some.inj (held.symm.trans held')
  obtain ⟨old, was, same'⟩ := belongs
  refine ⟨?_, session, held, same⟩
  rcases Nat.lt_trichotomy number other with earlier | rfl | late
  · exact earlier
  · rw [closed.isActive] at active
    cases active
  · rw [sound.latest other number session old held was (same.trans same'.symm) late] at running
    cases running

theorem renews_step (sound : Sound run) (closed : Closed run.state number)
    (belongs : Belongs run.state number identity) {op : Registry.Op}
    (can : run.state.registry.canStep op = true)
    (renews : Renews run.state story number identity (.running (.plain op))) :
    Renews (run.state.ofRegistryMove (run.state.registry.step op)).state story number identity
      (run.state.ofRegistryMove (run.state.registry.step op)).progress := by
  cases op with
  | find other =>
    obtain rfl : other = identity := renews
    simp only [Registry.step]
    split
    case h_1 found' found => exact later_of_get? sound closed belongs found
    case h_2 => rfl
  | join other => exact renews
  | waiting other ticket =>
    simp only [Registry.step]
    split <;> exact renews
  | findAgain other ticket =>
    obtain rfl : other = identity := renews
    simp only [Registry.step]
    split
    case h_1 found' found => exact later_of_get? sound closed belongs found
    case h_2 => rfl
  | creating other ticket => cases can
  | leave ticket answer =>
    cases answer <;> exact renews
  | close other | onSession purpose other inner | evict other => exact renews.elim

theorem renews_of_moves (sound : Sound run) (closed : Closed run.state number)
    (belongs : Belongs run.state number identity) (moved : Moves run.state op notes move)
    (renews : Renews run.state story number identity (.running op)) :
    Renews move.state (story ++ notes) number identity move.progress := by
  cases moved with
  | step can => simpa using renews_step sound closed belongs can renews
  | call waits => exact renews.elim
  | client stamp held moved => exact renews.elim
  | provide other ticket settings router =>
    obtain rfl : other = identity := renews
    obtain ⟨session, held, _⟩ := closed
    have within := (List.getElem?_eq_some_iff.1 held).1
    exact ⟨rfl, within, run.state.registry.newSession other, by simp [add], rfl⟩
  | fail other ticket fault =>
    show Note.provided (.error fault) ∈ _
    simp
  | attach other ticket made => exact renews
  | map other ticket made => exact renews.2

/-- Whoever was begun to find a session in the place of a closed one goes on to. -/
def Renewing (run : Run) (member number : Nat) (identity : Identity) : Prop :=
  ∃ progress, run.members[member]? = some progress ∧
    Renews run.state (run.story member) number identity progress

theorem renewing_act (sound : Sound run) (closed : Closed run.state number)
    (belongs : Belongs run.state number identity) (renewing : Renewing run member number identity)
    (event : Event) : Renewing (act run event) member number identity := by
  refine @act_induction (Renewing · member number identity) run event renewing ?launches ?moves
    ?drifts
  case launches =>
    rintro run op _ ⟨progress, held, renews⟩
    have within := (List.getElem?_eq_some_iff.1 held).1
    refine ⟨progress, Crew.member_enter _ held, ?_⟩
    rw [launch, Crew.story_enter_of_ne _ (Nat.ne_of_gt within)]
    exact renews
  case drifts =>
    intro number' state _ drifts
    obtain ⟨progress, held, renews⟩ := renewing
    refine ⟨progress, held, ?_⟩
    rw [Crew.story_drift]
    exact renews.grows (grows_of_drifts drifts) (List.Subset.refl _)
  case moves =>
    intro mover op notes move _ held moved
    obtain ⟨progress, held', renews⟩ := renewing
    by_cases same : member = mover
    · subst same
      obtain rfl := Option.some.inj (held.symm.trans held')
      refine ⟨move.progress, Crew.member_follow_self held, ?_⟩
      rw [Crew.story_follow_self]
      exact renews_of_moves sound closed belongs moved renews
    · refine ⟨progress, Crew.member_follow_of_ne held same held', ?_⟩
      rw [Crew.story_follow_of_ne (Ne.symm same)]
      exact renews.grows (grows_of_moves moved) (List.Subset.refl _)

/-- Whoever asks for a session of an identity after its session was closed gets one that was made later,
or the reason why the provider gave no client. -/
theorem renewing_onward (sound : Sound run) (closed : Closed run.state number)
    (belongs : Belongs run.state number identity) (events : List Event) :
    Renewing (onward (act run (.finds identity)) events) run.members.length number identity := by
  have grows := grows_act run (.finds identity)
  have begun : Renewing (act run (.finds identity)) run.members.length number identity :=
    ⟨.running (.plain (.find identity)), by rw [act, launch, Crew.members_enter, if_pos rfl], rfl⟩
  refine (@onward_induction (fun later => Sound later ∧ Closed later.state number ∧
    Belongs later.state number identity ∧ Renewing later run.members.length number identity) ?_ _
      ⟨sound_act sound _, closed.grows grows, belongs.grows grows, begun⟩ events).2.2.2
  rintro middle event ⟨sound, closed, belongs, renewing⟩
  have grows := grows_act middle event
  exact ⟨sound_act sound event, closed.grows grows, belongs.grows grows,
    renewing_act sound closed belongs renewing event⟩

/-! ## What goes on at a closed session -/

/-- Whether an operation deals with the session with a number, or forgets what is closed. -/
def Op.Minds (number : Nat) : Op → Prop
  | plain (.onSession _ other _) | calling _ other _ _ => other = number
  | plain (.evict _) => True
  | _ => False

theorem minds_ofSessionMove {registry : Registry} {purpose : Registry.Purpose}
    {moved : Move Session Session.Op Session.Result} {later : Op}
    (comes : (fleet.ofRegistryMove (registry.ofSessionMove purpose number moved)).progress =
      .running later) : later.Minds number := by
  obtain ⟨op, rfl, comes'⟩ := plain_of_ofRegistryMove comes
  cases moved with
  | go session inner =>
    obtain rfl := Progress.running.inj comes'
    rfl
  | done session result =>
    obtain ⟨identity, rfl⟩ := evict_of_afterSession comes'
    trivial

/-- An operation that deals with a session never deals with another one. -/
theorem minds_of_moves (moved : Moves fleet op notes move) (minds : op.Minds number) {later : Op}
    (comes : move.progress = .running later) : later.Minds number := by
  cases moved with
  | @step op can =>
    cases op with
    | onSession purpose caller inner =>
      obtain rfl : caller = number := minds
      simp only [Registry.step] at comes
      split at comes
      case h_1 =>
        split at comes
        case h_1 | h_3 => exact minds_ofSessionMove comes
        case h_2 =>
          obtain rfl := Progress.running.inj comes
          rfl
      case h_2 => cases comes
    | evict identity => cases comes
    | _ => exact minds.elim
  | call waits =>
    obtain rfl := Progress.running.inj comes
    exact minds
  | @client purpose caller inner call station move stamp held moved =>
    obtain rfl : caller = number := minds
    cases move with
    | go uplink call =>
      obtain rfl := Progress.running.inj comes
      rfl
    | done uplink answer =>
      simp only [ofCallMove, Registry.resume] at comes
      split at comes
      case h_1 => exact minds_ofSessionMove comes
      case h_2 => cases comes
  | provide | fail | attach | map => exact minds.elim

/-- Whether an operation deals with the session with a number for all that it still does. -/
def Minding (run : Run) (member number : Nat) : Prop :=
  ∃ progress, run.members[member]? = some progress ∧
    ∀ op, progress = .running op → op.Minds number

theorem minding_onward (minding : Minding run member number) (events : List Event) :
    Minding (onward run events) member number := by
  refine @onward_induction (Minding · member number) ?_ run minding events
  intro run event minding
  refine @act_induction (Minding · member number) run event minding ?launches ?moves ?drifts
  case launches =>
    exact fun _ _ _ ⟨progress, held, minds⟩ => ⟨progress, Crew.member_enter _ held, minds⟩
  case drifts => exact fun _ _ _ _ => minding
  case moves =>
    intro mover op notes move _ held' moved
    obtain ⟨progress, held, minds⟩ := minding
    by_cases same : member = mover
    · subst same
      obtain rfl := Option.some.inj (held.symm.trans held')
      exact ⟨_, Crew.member_follow_self held', fun later => minds_of_moves moved (minds op rfl)⟩
    · exact ⟨progress, Crew.member_follow_of_ne held' same held, minds⟩

/-- Whether an event is one of the client or the session with a number, or lets an operation move that
deals with this session or forgets what is closed. -/
inductive Concerns (run : Run) (number : Nat) (event : Event) : Prop
  | outside (its : event.number? = some number)
  | operation {member : Nat} {op : Op} (its : event.member? = some member)
      (held : run.members[member]? = some (.running op)) (minds : op.Minds number)

/-- What is left alone of a session and its client: nothing happens to the client, and a session that is
found stays the one that is found. -/
structure Spares (fleet after : Fleet) (number : Nat) : Prop where
  station : after.stations[number]? = fleet.stations[number]?
  active : after.registry.isActive number = fleet.registry.isActive number
  found : ∀ identity, fleet.registry.get? identity = some number →
    after.registry.get? identity = some number

theorem Spares.refl (fleet : Fleet) (number : Nat) : Spares fleet fleet number :=
  ⟨rfl, rfl, fun _ => id⟩

theorem spares_of_settles (sound : Sound run)
    (settles : Registry.Settles run.state.registry after.registry)
    (station : after.stations[number]? = run.state.stations[number]?)
    (active : after.registry.isActive number = run.state.registry.isActive number) :
    Spares run.state after number where
  station := station
  active := active
  found := by
    intro identity found
    obtain ⟨mapped, running⟩ := Registry.get?_eq_some_iff.1 found
    obtain ⟨session, held, rfl⟩ := sound.named identity number mapped
    rw [← active] at running
    obtain ⟨later, held', running'⟩ := Registry.isActive_iff.1 running
    obtain ⟨earlier, was, evolves⟩ := settles.sessions number later held'
    obtain rfl := Option.some.inj (held.symm.trans was)
    rw [← evolves.identity] at mapped ⊢
    exact Registry.get?_eq_some_iff.2 ⟨settles.spared number later held' running' mapped, running⟩

theorem isActive_of_kept {before after : Registry} (length : after.sessions.length = before.sessions.length)
    (kept : ∀ session, before.sessions[number]? = some session →
      after.sessions[number]? = some session) : after.isActive number = before.isActive number := by
  cases held : before.sessions[number]? with
  | some session => simp [Registry.isActive, held, kept session held]
  | none =>
    have beyond : after.sessions[number]? = none := by
      rw [List.getElem?_eq_none_iff] at held ⊢
      omega
    simp [Registry.isActive, held, beyond]

theorem spares_of_moves (sound : Sound run) (moved : Moves run.state op notes move)
    (minds : op.Minds number) {other : Nat} (apart : number ≠ other) :
    Spares run.state move.state other := by
  cases moved with
  | @step op can =>
    rw [state_ofRegistryMove]
    have settles := Registry.settles_step run.state.registry op
    refine spares_of_settles sound settles rfl (isActive_of_kept settles.length ?_)
    intro session held
    rcases Registry.session_of_moves (.step can) held with kept | ⟨_, rfl, _⟩ | ⟨_, _, rfl⟩
    · exact kept
    · exact minds.elim
    · exact absurd (Eq.symm minds) apart
  | call waits => exact .refl run.state other
  | @client purpose caller op call station move stamp held moved =>
    obtain rfl : caller = number := minds
    have still : ∀ turn, (run.state.change caller turn).stations[other]? =
        run.state.stations[other]? := getElem?_change_of_ne apart
    cases move with
    | go uplink call =>
      exact spares_of_settles sound (.refl run.state.registry) (still _) rfl
    | done uplink answer =>
      rw [ofCallMove, state_ofRegistryMove]
      have settles := Registry.settles_resume run.state.registry stamp answer
        (.onSession purpose caller op)
      refine spares_of_settles sound settles (still _) (isActive_of_kept settles.length ?_)
      intro session held
      exact (Registry.sessions_resume_of_ne apart stamp answer purpose op).trans held
  | provide | fail | attach | map => exact minds.elim

theorem spares_of_drifts (sound : Sound run) {event : Event}
    (drifts : Drifts run.state event number after) {other : Nat} (apart : number ≠ other) :
    Spares run.state after other := by
  obtain ⟨⟨settles, _, active⟩, _⟩ := registry_of_drifts drifts
  refine spares_of_settles sound settles ?_ (active other)
  cases drifts with
  | rests | loops => rfl
  | changes | supervises | tells => exact getElem?_change_of_ne apart _

theorem Event.member?_of_number? {event : Event} (its : event.number? = some number) :
    event.member? = none := by
  cases event <;> first | rfl | cases its

/-- Nothing that goes on at one session, at its client or in the operations on it touches another session
or its client. -/
theorem spares_act (sound : Sound run) {event : Event} (concerns : Concerns run number event)
    {other : Nat} (apart : number ≠ other) : Spares run.state (act run event).state other := by
  refine @act_induction (Spares run.state ·.state other) run event (.refl run.state other) ?launches
    ?moves ?drifts
  case launches => exact fun _ _ _ => id
  case moves =>
    intro mover op notes move moves held moved
    cases concerns with
    | outside its =>
      rw [Event.member?_of_number? its] at moves
      cases moves
    | operation its held' minds =>
      obtain rfl := Option.some.inj (moves.symm.trans its)
      obtain rfl := Progress.running.inj (Option.some.inj (held.symm.trans held'))
      exact spares_of_moves sound moved minds apart
  case drifts =>
    intro number' state its drifts
    cases concerns with
    | outside its' =>
      obtain rfl := Option.some.inj (its.symm.trans its')
      exact spares_of_drifts sound drifts apart
    | operation its' =>
      rw [Event.member?_of_number? its] at its'
      cases its'

end Fleet

end DeviceGateway
