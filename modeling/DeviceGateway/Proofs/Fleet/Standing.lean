/-
# Sessions and clients side by side

What every run of a fleet keeps.  Each session has its client, and an active session is either mapped
under its identity or about to be mapped by the operation that has made it, which has the turn until then.
So a session is made only while its identity has no active one, also where making it takes several
steps.

A session may be closed before it is mapped; what is mapped then is a closed session.
-/

import DeviceGateway.Proofs.Fleet.Run

namespace DeviceGateway

namespace Fleet

open Registry (Result)

variable {fleet : Fleet} {op : Op} {notes : List Note} {move : Move Fleet Op Result}

/-! ## What a move means for the registry -/

/-- Whether an operation is making the session with a number, which is not mapped yet. -/
def Op.Makes (identity : Identity) (number : Nat) : Op → Prop
  | attaching other _ made | mapping other _ made => other = identity ∧ made = number
  | _ => False

/-- How far an operation has come for the registry. -/
def baseOf : Progress Op Result → Progress Registry.Op Result
  | .running op => .running op.base
  | .ended result => .ended result

@[simp]
theorem state_ofRegistryMove (fleet : Fleet) (move : Move Registry Registry.Op Result) :
    (fleet.ofRegistryMove move).state = { fleet with registry := move.state } := by
  cases move <;> rfl

@[simp]
theorem baseOf_ofRegistryMove (fleet : Fleet) (move : Move Registry Registry.Op Result) :
    baseOf (fleet.ofRegistryMove move).progress = move.progress := by
  cases move <;> rfl

/-- Where the registry moves an operation, it is the registry's to move. -/
theorem plain_of_ofRegistryMove {moved : Move Registry Registry.Op Result} {later : Op}
    (comes : (fleet.ofRegistryMove moved).progress = .running later) :
    ∃ op, later = .plain op ∧ moved.progress = .running op := by
  cases moved with
  | go registry op => exact ⟨op, (Progress.running.inj comes).symm, rfl⟩
  | done registry result => cases comes

/-- Once a session has done its part there is nothing left but to forget it. -/
theorem evict_of_afterSession {registry : Registry} {caller : Nat} {result : Session.Result}
    {purpose : Registry.Purpose} {op : Registry.Op}
    (comes : (registry.afterSession caller result purpose).progress = .running op) :
    ∃ identity, op = .evict identity := by
  cases purpose with
  | request => cases comes
  | closing => cases result <;> cases comes
  | eviction =>
    simp only [Registry.afterSession] at comes
    split at comes
    case h_1 session _ => exact ⟨session.identity, (Progress.running.inj comes).symm⟩
    case h_2 => cases comes

@[simp]
theorem length_stations_change (fleet : Fleet) (number : Nat) (turn : Station → Station) :
    (fleet.change number turn).stations.length = fleet.stations.length := List.length_modify ..

@[simp]
theorem length_stations_changeUplink (fleet : Fleet) (number : Nat) (turn : Uplink → Uplink) :
    (fleet.changeUplink number turn).stations.length = fleet.stations.length :=
  length_stations_change ..

theorem getElem?_change_of_ne {number other : Nat} (apart : number ≠ other)
    (turn : Station → Station) :
    (fleet.change number turn).stations[other]? = fleet.stations[other]? := by
  simp [change, apart]

theorem lineMove_of_moves (moved : Moves fleet op notes move) :
    Registry.LineMove fleet.registry.makers op.base move.state.registry.makers
      (baseOf move.progress) := by
  cases moved with
  | step can =>
    rw [state_ofRegistryMove, baseOf_ofRegistryMove]
    exact Registry.lineMove_step can
  | call waits => exact .aside rfl rfl rfl
  | @client purpose number op call station move stamp held moved =>
    cases move with
    | go uplink call => exact .aside rfl rfl rfl
    | done uplink answer =>
      rw [ofCallMove, state_ofRegistryMove, baseOf_ofRegistryMove]
      exact Registry.lineMove_resume fleet.registry stamp answer purpose number op
  | provide | fail | attach | map => exact .stays rfl fun _ _ _ => .inl rfl

/-- What a move means for the sessions and for what is mapped. -/
inductive Effect (fleet : Fleet) (op : Op) (move : Move Fleet Op Result) : Prop
  /-- No session is made or mapped. -/
  | settles (settles : Registry.Settles fleet.registry move.state.registry)
      (paired : move.state.stations.length = fleet.stations.length)
      (made : ∀ identity number, op.Makes identity number →
        ∃ later, move.progress = .running later ∧ later.Makes identity number)
      (makes : ∀ later identity number, move.progress = .running later →
        later.Makes identity number → op.Makes identity number)
      (creating : ∀ later identity ticket, move.progress = .running later →
        later.base = .creating identity ticket →
          op.base = .creating identity ticket ∨ move.state.registry.get? identity = none)
  | adds (identity : Identity) (ticket : Nat) (settings : Settings.Hub)
      (router : Topic.Router Uplink.Destination) (before : op = .plain (.creating identity ticket))
      (after : move = .go (fleet.add identity settings router)
        (.attaching identity ticket fleet.registry.sessions.length))
  | maps (identity : Identity) (ticket number : Nat) (before : op = .mapping identity ticket number)
      (after : move = .go { fleet with registry := fleet.registry.map identity number }
        (.plain (.leave ticket (.ok number))))

theorem effect_of_moves (moved : Moves fleet op notes move) : Effect fleet op move := by
  have still := Registry.Settles.refl fleet.registry
  cases moved with
  | @step op can =>
    refine .settles ?_ (by simp) (fun _ _ => nofun) ?_ ?_
    · simpa using Registry.settles_step fleet.registry op
    · intro later identity number comes makes
      obtain ⟨_, rfl, _⟩ := plain_of_ofRegistryMove comes
      exact makes
    · intro later identity ticket comes creates
      obtain ⟨_, rfl, comes'⟩ := plain_of_ofRegistryMove comes
      right
      simpa using Registry.get?_of_creating (.step can) (comes'.trans (congrArg _ creates))
  | call waits =>
    refine .settles still rfl (fun _ _ => nofun) ?_ ?_
    · rintro later identity number ⟨⟩ makes
      exact makes
    · rintro later identity ticket ⟨⟩ creates
      cases creates
  | @client purpose number op call station move stamp held moved =>
    cases move with
    | go uplink call =>
      refine .settles still (length_stations_changeUplink fleet number fun _ => uplink)
        (fun _ _ => nofun) ?_ ?_
      · rintro later identity number ⟨⟩ makes
        exact makes
      · rintro later identity ticket ⟨⟩ creates
        cases creates
    | done uplink answer =>
      refine .settles ?_ (by simp [ofCallMove]) (fun _ _ => nofun) ?_ ?_
      · simpa [ofCallMove] using Registry.settles_resume fleet.registry stamp answer _
      · intro later identity number comes makes
        obtain ⟨_, rfl, _⟩ := plain_of_ofRegistryMove comes
        exact makes
      · intro later identity ticket comes creates
        obtain ⟨_, rfl, comes'⟩ := plain_of_ofRegistryMove comes
        have free := Registry.ticketOf_resume fleet.registry stamp answer purpose number op
        obtain rfl : _ = Registry.Op.creating identity ticket := creates
        rw [comes'] at free
        cases free
  | provide identity ticket settings router =>
    exact .adds identity ticket settings router rfl rfl
  | fail identity ticket fault =>
    refine .settles still rfl (fun _ _ => nofun) ?_ ?_
    · rintro later identity number ⟨⟩ makes
      exact makes.elim
    · rintro later identity ticket ⟨⟩ creates
      cases creates
  | attach identity ticket number =>
    refine .settles still (length_stations_change ..) ?_ ?_ ?_
    · intro identity number makes
      exact ⟨_, rfl, makes⟩
    · rintro later identity number ⟨⟩ makes
      exact makes
    · rintro later identity ticket ⟨⟩ creates
      exact .inl creates
  | map identity ticket number => exact .maps identity ticket number rfl rfl

/-- The registry drifts when its clients and sessions do. -/
theorem registry_of_drifts {event : Event} {number : Nat} {state : Fleet}
    (drifts : Drifts fleet event number state) :
    Registry.Drifts fleet.registry state.registry ∧
      state.stations.length = fleet.stations.length := by
  have still := Registry.Drifts.refl fleet.registry
  cases drifts with
  | rests => exact ⟨still, rfl⟩
  | changes silent => exact ⟨still, length_stations_changeUplink ..⟩
  | supervises its held idle => exact ⟨still, length_stations_change ..⟩
  | tells its next feed =>
    exact ⟨⟨Registry.settles_of_eq rfl rfl rfl, rfl, fun _ => rfl⟩, length_stations_change ..⟩
  | loops inbox event => exact ⟨Registry.drifts_onLoop .., rfl⟩

/-! ## Sessions that are added and mapped -/

theorem getElem?_sessions_add {identity : Identity} {settings : Settings.Hub}
    {router : Topic.Router Uplink.Destination} {number : Nat} {session : Session}
    (held : (fleet.add identity settings router).registry.sessions[number]? = some session) :
    fleet.registry.sessions[number]? = some session ∨
      number = fleet.registry.sessions.length ∧ session = fleet.registry.newSession identity :=
  Registry.getElem?_sessions_adopt fleet.registry identity held

theorem grows_add (fleet : Fleet) (identity : Identity) (settings : Settings.Hub)
    (router : Topic.Router Uplink.Destination) :
    Registry.Grows fleet.registry (fleet.add identity settings router).registry :=
  Registry.grows_adopt fleet.registry identity

theorem grows_of_moves (moved : Moves fleet op notes move) :
    Registry.Grows fleet.registry move.state.registry := by
  cases effect_of_moves moved with
  | settles settles => exact settles.grows
  | adds identity ticket settings router before after =>
    subst after
    exact grows_add fleet identity settings router
  | maps identity ticket number before after =>
    subst after
    exact fun _ session held => ⟨session, held, .refl session⟩

/-! ## Runs -/

/-- The operations of a run, in the line of those who make sessions. -/
def lineOf (run : Run) : Registry.Run where
  state := run.state.registry
  members := run.members.map baseOf

theorem lineOf_member {run : Run} {member : Nat} (held : run.members[member]? = some (.running op)) :
    (lineOf run).members[member]? = some (.running op.base) := by
  simp [lineOf, held, baseOf]

/-- What every run keeps. -/
structure Sound (run : Run) : Prop where
  /-- Each session has its client. -/
  paired : run.state.stations.length = run.state.registry.sessions.length
  line : Registry.InLine (lineOf run).state.makers (lineOf run).members
  active : ∀ (number : Nat) (session : Session),
    run.state.registry.sessions[number]? = some session → session.active = true →
      run.state.registry.numberOf? session.identity = some number ∨
        run.AnyAt (Op.Makes session.identity number)
  named : ∀ identity number, run.state.registry.numberOf? identity = some number →
    ∃ session, run.state.registry.sessions[number]? = some session ∧ session.identity = identity
  /-- Only the session that was made last for an identity can be active. -/
  latest : ∀ (first second : Nat) (one other : Session),
    run.state.registry.sessions[first]? = some one →
      run.state.registry.sessions[second]? = some other → one.identity = other.identity →
        first < second → one.active = false
  making : ∀ (member : Nat) op identity number, run.members[member]? = some (.running op) →
    op.Makes identity number →
      ∃ session, run.state.registry.sessions[number]? = some session ∧ session.identity = identity
  /-- While a session is being made, its identity has no active session that is mapped. -/
  creating : ∀ (member : Nat) op identity ticket, run.members[member]? = some (.running op) →
    op.base = .creating identity ticket → run.state.registry.get? identity = none

theorem base_of_makes {identity : Identity} {number : Nat} (makes : op.Makes identity number) :
    ∃ ticket, op.base = .creating identity ticket := by
  cases op with
  | attaching other ticket made | mapping other ticket made =>
    obtain ⟨rfl, _⟩ := makes
    exact ⟨ticket, rfl⟩
  | plain | calling => exact makes.elim

section

variable {run : Run} {member : Nat}

/-- One session is made at a time. -/
theorem Sound.maker_unique (sound : Sound run) {other : Nat} {op' : Op} {identity identity' : Identity}
    {ticket ticket' : Nat} (held : run.members[member]? = some (.running op))
    (held' : run.members[other]? = some (.running op')) (creates : op.base = .creating identity ticket)
    (creates' : op'.base = .creating identity' ticket') : member = other :=
  sound.line.unique (lineOf_member held) (lineOf_member held') (by rw [creates]; rfl)
    (by rw [creates']; rfl)

/-- While the provider is creating a client, its identity has no active session. -/
theorem Sound.inactive_of_creating (sound : Sound run) {identity : Identity} {ticket : Nat}
    (held : run.members[member]? = some (.running (.plain (.creating identity ticket))))
    {number : Nat} {session : Session}
    (held' : run.state.registry.sessions[number]? = some session)
    (same : session.identity = identity) : session.active = false := by
  by_contra running
  have active : session.active = true := by simpa using running
  rcases sound.active number session held' active with mapped | ⟨other, op, held'', makes⟩
  · have found : run.state.registry.get? identity = some number :=
      Registry.get?_eq_some_iff.2 ⟨same ▸ mapped, Registry.isActive_iff.2 ⟨session, held', active⟩⟩
    rw [sound.creating member _ identity ticket held rfl] at found
    cases found
  · obtain ⟨ticket', creates⟩ := base_of_makes makes
    obtain rfl := sound.maker_unique held held'' rfl creates
    obtain rfl := Progress.running.inj (Option.some.inj (held.symm.trans held''))
    exact makes

/-- A new session does not change which sessions are found. -/
theorem Sound.get?_add (sound : Sound run) (identity other : Identity) (settings : Settings.Hub)
    (router : Topic.Router Uplink.Destination) :
    (run.state.add identity settings router).registry.get? other =
      run.state.registry.get? other := by
  cases found : run.state.registry.numberOf? other with
  | none =>
    have found' : (run.state.add identity settings router).registry.numberOf? other = none := found
    simp [Registry.get?, found, found']
  | some number =>
    obtain ⟨session, held, _⟩ := sound.named other number found
    have found' : (run.state.add identity settings router).registry.numberOf? other = some number :=
      found
    have within := (List.getElem?_eq_some_iff.1 held).1
    have same : (run.state.add identity settings router).registry.isActive number =
        run.state.registry.isActive number := by
      simp [Registry.isActive, add, List.getElem?_append_left within]
    simp [Registry.get?, found, found', Option.filter, same]

theorem sound_fresh (receiveTimeout : Nat) : Sound { state := fresh receiveTimeout } where
  paired := rfl
  line := by
    constructor
    case known => intro ticket member; cases member
    case held => intro member progress ticket found; cases found
    case apart => intro first second one other ticket found; cases found
    case turn => intro member progress ticket found; cases found
  active := by intro number session held; cases held
  named := by intro identity number found; cases found
  latest := by intro first second one other held; cases held
  making := by intro member op identity number held; cases held
  creating := by intro member op identity ticket held; cases held

/-- An operation that begins is making nothing. -/
theorem base_ne_creating_of_begins {op : Registry.Op} (begins : op.Begins) {identity : Identity}
    {ticket : Nat} : op ≠ .creating identity ticket := by
  rintro rfl
  cases begins

theorem sound_launch (sound : Sound run) {op : Registry.Op} (begins : op.Begins) :
    Sound (launch run op) where
  paired := sound.paired
  line := by
    have line := Registry.inLine_launch sound.line begins
    simpa [launch, Registry.launch, Crew.enter, lineOf, baseOf, Op.base] using line
  active := by
    intro number session held active
    exact (sound.active number session held active).imp_right (Crew.anyAt_enter _)
  named := sound.named
  latest := sound.latest
  making := by
    intro member later identity number held makes
    rw [launch, Crew.members_enter] at held
    split at held
    case isTrue =>
      obtain rfl := Progress.running.inj (Option.some.inj held)
      exact makes.elim
    case isFalse => exact sound.making member later identity number held makes
  creating := by
    intro member later identity ticket held creates
    rw [launch, Crew.members_enter] at held
    split at held
    case isTrue =>
      obtain rfl := Progress.running.inj (Option.some.inj held)
      exact absurd creates (base_ne_creating_of_begins begins)
    case isFalse => exact sound.creating member later identity ticket held creates

theorem sound_drift (sound : Sound run) {event : Event} {number : Nat} {state : Fleet}
    (drifts : Drifts run.state event number state) : Sound (run.drift state []) := by
  obtain ⟨⟨settles, makers, _⟩, paired⟩ := registry_of_drifts drifts
  constructor
  case paired =>
    rw [Crew.state_drift, paired, settles.length, sound.paired]
  case line =>
    show Registry.InLine state.registry.makers (lineOf run).members
    rw [makers]
    exact sound.line
  case active =>
    intro other session held active
    obtain ⟨earlier, held', evolves⟩ := settles.sessions other session held
    rw [evolves.identity]
    refine (sound.active other earlier held' (evolves.active active)).imp_left fun mapped => ?_
    rw [← evolves.identity] at mapped ⊢
    exact settles.spared other session held active mapped
  case named =>
    intro identity other found
    obtain ⟨session, held, same⟩ := sound.named identity other (settles.mapped identity other found)
    obtain ⟨later, held', evolves⟩ := settles.grows other session held
    exact ⟨later, held', evolves.identity.trans same⟩
  case latest => exact Registry.latest_of_settles settles sound.latest
  case making =>
    intro member op identity other held makes
    obtain ⟨session, held', same⟩ := sound.making member op identity other held makes
    obtain ⟨later, held'', evolves⟩ := settles.grows other session held'
    exact ⟨later, held'', evolves.identity.trans same⟩
  case creating =>
    intro member op identity ticket held creates
    exact Registry.get?_eq_none_of_settles settles
      (sound.creating member op identity ticket held creates)

/-- Who was somewhere after a member has moved was there before, or is the member. -/
theorem members_follow_cases {op : Op} (held : run.members[member]? = some (.running op))
    {other : Nat} {later : Op}
    (found : (run.follow member move notes).members[other]? = some (.running later)) :
    other = member ∧ move.progress = .running later ∨
      other ≠ member ∧ run.members[other]? = some (.running later) := by
  rw [Crew.members_follow held] at found
  split at found
  case isTrue same => exact .inl ⟨same, Option.some.inj found⟩
  case isFalse apart => exact .inr ⟨apart, found⟩

theorem line_follow (sound : Sound run) (held : run.members[member]? = some (.running op))
    (moved : Moves run.state op notes move) :
    Registry.InLine (lineOf (run.follow member move notes)).state.makers
      (lineOf (run.follow member move notes)).members := by
  have moves := lineMove_of_moves moved
  have held' := lineOf_member held
  -- The registry's own runs know the lemma; what they see of the move is its base.
  cases move with
  | go state later =>
    let seen := (lineOf run).follow member (.go state.registry later.base) []
    have line : Registry.InLine seen.state.makers seen.members :=
      Registry.inLine_follow sound.line held' moves
    simpa [seen, lineOf, Crew.follow, List.map_set, baseOf] using line
  | done state result =>
    let seen := (lineOf run).follow member (.done state.registry result) []
    have line : Registry.InLine seen.state.makers seen.members :=
      Registry.inLine_follow sound.line held' moves
    simpa [seen, lineOf, Crew.follow, List.map_set, baseOf] using line

/-- Where no session is made or mapped, what holds of the sessions goes on to hold. -/
theorem sound_follow_settles (sound : Sound run)
    (held : run.members[member]? = some (.running op)) (moved : Moves run.state op notes move)
    (settles : Registry.Settles run.state.registry move.state.registry)
    (paired : move.state.stations.length = run.state.stations.length)
    (made : ∀ identity number, op.Makes identity number →
      ∃ later, move.progress = .running later ∧ later.Makes identity number)
    (makes : ∀ later identity number, move.progress = .running later →
      later.Makes identity number → op.Makes identity number)
    (creating : ∀ later identity ticket, move.progress = .running later →
      later.base = .creating identity ticket →
        op.base = .creating identity ticket ∨ move.state.registry.get? identity = none) :
    Sound (run.follow member move notes) where
  paired := by rw [Crew.state_follow, paired, settles.length, sound.paired]
  line := line_follow sound held moved
  active := by
    intro number session held' active
    obtain ⟨earlier, was, evolves⟩ := settles.sessions number session held'
    rcases sound.active number earlier was (evolves.active active) with mapped | making
    · left
      rw [← evolves.identity] at mapped
      exact settles.spared number session held' active mapped
    · right
      rw [evolves.identity]
      exact Crew.anyAt_follow held making (made earlier.identity number)
  named := by
    intro identity number found
    obtain ⟨session, held', same⟩ := sound.named identity number (settles.mapped identity number found)
    obtain ⟨later, held'', evolves⟩ := settles.grows number session held'
    exact ⟨later, held'', evolves.identity.trans same⟩
  latest := Registry.latest_of_settles settles sound.latest
  making := by
    intro other later identity number found begun
    have before : ∃ session, run.state.registry.sessions[number]? = some session ∧
        session.identity = identity := by
      rcases members_follow_cases held found with ⟨rfl, comes⟩ | ⟨_, kept⟩
      · exact sound.making other op identity number held (makes later identity number comes begun)
      · exact sound.making other later identity number kept begun
    obtain ⟨session, was, same⟩ := before
    obtain ⟨session', held', evolves⟩ := settles.grows number session was
    exact ⟨session', held', evolves.identity.trans same⟩
  creating := by
    intro other later identity ticket found creates
    have kept : run.state.registry.get? identity = none →
        move.state.registry.get? identity = none := Registry.get?_eq_none_of_settles settles
    rcases members_follow_cases held found with ⟨rfl, comes⟩ | ⟨_, found⟩
    · rcases creating later identity ticket comes creates with was | missing
      · exact kept (sound.creating other op identity ticket held was)
      · exact missing
    · exact kept (sound.creating other later identity ticket found creates)

theorem sound_follow_adds (sound : Sound run) {identity : Identity} {ticket : Nat}
    {settings : Settings.Hub} {router : Topic.Router Uplink.Destination}
    (held : run.members[member]? = some (.running (.plain (.creating identity ticket))))
    (moved : Moves run.state (.plain (.creating identity ticket)) notes
      (.go (run.state.add identity settings router)
        (.attaching identity ticket run.state.registry.sessions.length))) :
    Sound (run.follow member (.go (run.state.add identity settings router)
      (.attaching identity ticket run.state.registry.sessions.length)) notes) where
  paired := by simp [add, sound.paired]
  line := line_follow sound held moved
  active := by
    intro number session held' active
    rcases getElem?_sessions_add held' with old | ⟨rfl, rfl⟩
    · exact (sound.active number session old active).imp_right fun making =>
        Crew.anyAt_follow held making False.elim
    · exact .inr (Crew.anyAt_follow_self held rfl ⟨rfl, rfl⟩)
  named := by
    intro other number found
    obtain ⟨session, held', same⟩ := sound.named other number found
    obtain ⟨later, held'', evolves⟩ := grows_add run.state identity settings router number session held'
    exact ⟨later, held'', evolves.identity.trans same⟩
  latest := by
    intro first second one other held' held'' same earlier
    rcases getElem?_sessions_add held' with old | ⟨rfl, _⟩
    · rcases getElem?_sessions_add held'' with old' | ⟨rfl, rfl⟩
      · exact sound.latest first second one other old old' same earlier
      · exact sound.inactive_of_creating held old same
    · rcases getElem?_sessions_add held'' with old' | ⟨rfl, _⟩
      · have within := (List.getElem?_eq_some_iff.1 old').1
        omega
      · exact absurd earlier (Nat.lt_irrefl _)
  making := by
    intro other later maker number found begun
    rcases members_follow_cases held found with ⟨_, comes⟩ | ⟨_, kept⟩
    · obtain rfl := Progress.running.inj comes
      obtain ⟨rfl, rfl⟩ := begun
      exact ⟨run.state.registry.newSession identity, by simp [add], rfl⟩
    · obtain ⟨session, was, same⟩ := sound.making other later maker number kept begun
      obtain ⟨session', held', evolves⟩ :=
        grows_add run.state identity settings router number session was
      exact ⟨session', held', evolves.identity.trans same⟩
  creating := by
    intro other later maker ticket' found creates
    rw [Crew.state_follow, Move.state_go, sound.get?_add]
    rcases members_follow_cases held found with ⟨_, comes⟩ | ⟨_, kept⟩
    · obtain rfl := Progress.running.inj comes
      obtain ⟨rfl, _⟩ := Registry.Op.creating.inj creates
      exact sound.creating member _ identity ticket held rfl
    · exact sound.creating other later maker ticket' kept creates

theorem sound_follow_maps (sound : Sound run) {identity : Identity} {ticket number : Nat}
    (held : run.members[member]? = some (.running (.mapping identity ticket number)))
    (moved : Moves run.state (.mapping identity ticket number) notes
      (.go { run.state with registry := run.state.registry.map identity number }
        (.plain (.leave ticket (.ok number))))) :
    Sound (run.follow member (.go { run.state with registry := run.state.registry.map identity number }
      (.plain (.leave ticket (.ok number)))) notes) where
  paired := sound.paired
  line := line_follow sound held moved
  active := by
    intro other session held' active
    left
    rw [Crew.state_follow, Move.state_go, Registry.numberOf?_map]
    rcases sound.active other session held' active with mapped | ⟨maker, op, found, makes⟩
    · rw [if_neg]
      · exact mapped
      · rintro rfl
        have missing := sound.creating member _ session.identity ticket held rfl
        have found : run.state.registry.get? session.identity = some other :=
          Registry.get?_eq_some_iff.2 ⟨mapped, Registry.isActive_iff.2 ⟨session, held', active⟩⟩
        rw [missing] at found
        cases found
    · obtain ⟨ticket', creates⟩ := base_of_makes makes
      obtain rfl := sound.maker_unique held found rfl creates
      obtain rfl := Progress.running.inj (Option.some.inj (held.symm.trans found))
      obtain ⟨same, rfl⟩ := makes
      rw [if_pos same.symm]
  named := by
    intro other number' found
    rw [Crew.state_follow, Move.state_go, Registry.numberOf?_map] at found
    split at found
    case isTrue same =>
      obtain rfl := Option.some.inj found
      rw [same]
      exact sound.making member _ identity number held ⟨rfl, rfl⟩
    case isFalse => exact sound.named other number' found
  latest := sound.latest
  making := by
    intro other later maker number' found makes
    rcases members_follow_cases held found with ⟨_, comes⟩ | ⟨_, kept⟩
    · obtain rfl := Progress.running.inj comes
      exact makes.elim
    · exact sound.making other later maker number' kept makes
  creating := by
    intro other later maker ticket' found creates
    rcases members_follow_cases held found with ⟨_, comes⟩ | ⟨apart, kept⟩
    · obtain rfl := Progress.running.inj comes
      cases creates
    · exact absurd (sound.maker_unique kept held creates rfl) apart

theorem sound_follow (sound : Sound run) (held : run.members[member]? = some (.running op))
    (moved : Moves run.state op notes move) : Sound (run.follow member move notes) := by
  cases effect_of_moves moved with
  | settles settles paired made makes creating =>
    exact sound_follow_settles sound held moved settles paired made makes creating
  | adds identity ticket settings router before after =>
    subst before after
    exact sound_follow_adds sound held moved
  | maps identity ticket number before after =>
    subst before after
    exact sound_follow_maps sound held moved

theorem sound_act (sound : Sound run) (event : Event) : Sound (act run event) := by
  apply act_induction sound
  case launches => exact fun run op begins sound => sound_launch sound begins
  case moves => exact fun member op notes move _ held moved => sound_follow sound held moved
  case drifts => exact fun number state _ drifts => sound_drift sound drifts

theorem sound_onward (sound : Sound run) (events : List Event) : Sound (onward run events) :=
  @onward_induction Sound (fun _ event sound => sound_act sound event) run sound events

end

theorem sound_run (receiveTimeout : Nat) (events : List Event) : Sound (run receiveTimeout events) :=
  sound_onward (sound_fresh receiveTimeout) events

end Fleet

end DeviceGateway
