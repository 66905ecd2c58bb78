/-
# One active session for each identity

Two facts about a registry carry each other.  An active session is the one that is mapped under its
identity, since only closing a session or finding it closed forgets it; so whoever looks for a session
finds the active one.  And a session is made only while its identity has none, since the operation that
makes it has looked after its turn had come, and nobody else makes one meanwhile.

What a client announces reaches only the session that was made for it.
-/

import DeviceGateway.Proofs.Registry.Turn

namespace DeviceGateway

namespace Registry

/-! ## Sessions and what is mapped -/

/-- What the sessions of a registry and its map have to do with each other. -/
structure Mapped (registry : Registry) : Prop where
  active : ∀ (number : Nat) (session : Session), registry.sessions[number]? = some session →
    session.active = true → registry.numberOf? session.identity = some number
  named : ∀ identity number, registry.numberOf? identity = some number →
    ∃ session, registry.sessions[number]? = some session ∧ session.identity = identity
  /-- Only the session that was made last for an identity can be active. -/
  latest : ∀ (first second : Nat) (one other : Session), registry.sessions[first]? = some one →
    registry.sessions[second]? = some other → one.identity = other.identity → first < second →
      one.active = false

variable {registry after : Registry}

theorem isActive_iff {number : Nat} : registry.isActive number = true ↔
    ∃ session, registry.sessions[number]? = some session ∧ session.active = true := by
  unfold isActive
  split
  case h_1 session held => simp [held]
  case h_2 missing => simp [missing]

theorem get?_eq_some_iff {identity : Identity} {number : Nat} :
    registry.get? identity = some number ↔
      registry.numberOf? identity = some number ∧ registry.isActive number = true := by
  simp [get?, Option.filter_eq_some_iff]

/-- Looking for a session finds the active one. -/
theorem Mapped.get?_iff (mapped : Mapped registry) {identity : Identity} {number : Nat} :
    registry.get? identity = some number ↔ ∃ session, registry.sessions[number]? = some session ∧
      session.identity = identity ∧ session.active = true := by
  rw [get?_eq_some_iff, isActive_iff]
  constructor
  · rintro ⟨found, session, held, active⟩
    obtain ⟨session', held', named⟩ := mapped.named identity number found
    obtain rfl := Option.some.inj (held.symm.trans held')
    exact ⟨session, held, named, active⟩
  · rintro ⟨session, held, rfl, active⟩
    exact ⟨mapped.active number session held active, session, held, active⟩

/-- An identity that is not found has no active session. -/
theorem Mapped.inactive_of_get? (mapped : Mapped registry) {identity : Identity}
    (missing : registry.get? identity = none) {number : Nat} {session : Session}
    (held : registry.sessions[number]? = some session) (same : session.identity = identity) :
    session.active = false := by
  by_contra active
  have found := mapped.get?_iff.2 ⟨session, held, same, by simpa using active⟩
  rw [missing] at found
  cases found

theorem mapped_fresh (receiveTimeout : Nat) : Mapped (fresh receiveTimeout) where
  active := by intro number session held; cases held
  named := by intro identity number found; cases found
  latest := by intro first second one other held; cases held

/-- That only the last session of an identity can be active stays true while a registry settles. -/
theorem latest_of_settles (settles : Settles registry after)
    (latest : ∀ (first second : Nat) (one other : Session), registry.sessions[first]? = some one →
      registry.sessions[second]? = some other → one.identity = other.identity → first < second →
        one.active = false)
    (first second : Nat) (one other : Session) (held : after.sessions[first]? = some one)
    (held' : after.sessions[second]? = some other) (same : one.identity = other.identity)
    (earlier : first < second) : one.active = false := by
  obtain ⟨one', was, evolves⟩ := settles.sessions first one held
  obtain ⟨other', was', evolves'⟩ := settles.sessions second other held'
  have closed := latest first second one' other' was was'
    (by rw [← evolves.identity, ← evolves'.identity, same]) earlier
  exact evolves.inactive closed

theorem mapped_settles (mapped : Mapped registry) (settles : Settles registry after) :
    Mapped after where
  active := by
    intro number session held active
    obtain ⟨earlier, held', evolves⟩ := settles.sessions number session held
    apply settles.spared number session held active
    rw [evolves.identity]
    exact mapped.active number earlier held' (evolves.active active)
  named := by
    intro identity number found
    obtain ⟨session, held, same⟩ := mapped.named identity number (settles.mapped identity number found)
    obtain ⟨later, held', evolves⟩ := settles.grows number session held
    exact ⟨later, held', evolves.identity.trans same⟩
  latest := latest_of_settles settles mapped.latest

/-- Among the sessions there is one more after a session was made, and it is active. -/
theorem getElem?_sessions_adopt (registry : Registry) (identity : Identity) {number : Nat}
    {session : Session} (held : (registry.adopt identity).sessions[number]? = some session) :
    registry.sessions[number]? = some session ∨
      number = registry.sessions.length ∧ session = registry.newSession identity := by
  have found : (registry.sessions ++ [registry.newSession identity])[number]? = some session := held
  rw [List.getElem?_append] at found
  split at found
  case isTrue => exact .inl found
  case isFalse beyond =>
    rw [List.getElem?_singleton] at found
    split at found
    case isTrue last => exact .inr ⟨by omega, (Option.some.inj found).symm⟩
    case isFalse => cases found

theorem numberOf?_adopt (registry : Registry) (identity other : Identity) :
    (registry.adopt identity).numberOf? other =
      if other = identity then some registry.sessions.length else registry.numberOf? other :=
  numberOf?_map ..

theorem mapped_adopt (mapped : Mapped registry) {identity : Identity}
    (missing : registry.get? identity = none) : Mapped (registry.adopt identity) where
  active := by
    intro number session held active
    rw [numberOf?_adopt]
    rcases getElem?_sessions_adopt registry identity held with old | ⟨rfl, rfl⟩
    · rw [if_neg]
      · exact mapped.active number session old active
      · intro same
        rw [mapped.inactive_of_get? missing old same] at active
        cases active
    · exact if_pos rfl
  named := by
    intro other number found
    rw [numberOf?_adopt] at found
    split at found
    case isTrue same =>
      obtain rfl := Option.some.inj found
      exact ⟨registry.newSession identity, by simp [adopt, map], same.symm⟩
    case isFalse =>
      obtain ⟨session, held, same⟩ := mapped.named other number found
      obtain ⟨later, held', evolves⟩ := grows_adopt registry identity number session held
      exact ⟨later, held', evolves.identity.trans same⟩
  latest := by
    intro first second one other held held' same earlier
    rcases getElem?_sessions_adopt registry identity held with old | ⟨rfl, rfl⟩
    · rcases getElem?_sessions_adopt registry identity held' with old' | ⟨rfl, rfl⟩
      · exact mapped.latest first second one other old old' same earlier
      · exact mapped.inactive_of_get? missing old same
    · rcases getElem?_sessions_adopt registry identity held' with old' | ⟨rfl, _⟩
      · have within := (List.getElem?_eq_some_iff.1 old').1
        omega
      · exact absurd earlier (Nat.lt_irrefl _)

/-- An identity without an active session does not get one while a registry settles. -/
theorem get?_eq_none_of_settles (settles : Settles registry after) {identity : Identity}
    (missing : registry.get? identity = none) : after.get? identity = none := by
  rw [Option.eq_none_iff_forall_ne_some] at missing ⊢
  intro number found
  obtain ⟨found, active⟩ := get?_eq_some_iff.1 found
  obtain ⟨session, held, active⟩ := isActive_iff.1 active
  obtain ⟨earlier, held', evolves⟩ := settles.sessions number session held
  refine missing number (get?_eq_some_iff.2 ⟨settles.mapped identity number found, ?_⟩)
  exact isActive_iff.2 ⟨earlier, held', evolves.active active⟩

/-! ## Where operations come from -/

/-- What somebody who looked for a session is to find: a session of the identity, or the reason why
the provider gave no client. -/
def Found (registry : Registry) (story : List Note) : Answer Nat → Prop
  | .ok number => ∃ session, registry.sessions[number]? = some session ∧
      .begun (.find session.identity) ∈ story
  | .error fault => .provided (.error fault) ∈ story

/-- Who deals with a session has been asked to do something with just that one, or closes one that
was turned inactive as it was forgotten. -/
def Purpose.Origin (registry : Registry) (story : List Note) (number : Nat) : Purpose → Prop
  | .closing => ∃ session, registry.sessions[number]? = some session ∧ session.active = false
  | purpose => ∃ command, .begun (.onSession purpose number (.begin command)) ∈ story

/-- What the story of an operation says at its position. -/
def Origin (registry : Registry) (story : List Note) : Progress Op Result → Prop
  | .running (.find identity) | .running (.join identity) | .running (.waiting identity _)
  | .running (.findAgain identity _) | .running (.creating identity _) =>
    .begun (.find identity) ∈ story
  | .running (.leave _ answer) | .ended (.found answer) => Found registry story answer
  | .running (.close identity) => .begun (.close identity) ∈ story
  | .running (.onSession purpose number _) => purpose.Origin registry story number
  | _ => True

variable {story later : List Note}

theorem Found.grows {answer : Answer Nat} (found : Found registry story answer)
    (grows : Grows registry after) (more : story ⊆ later) : Found after later answer := by
  cases answer with
  | ok number =>
    obtain ⟨session, held, begun⟩ := found
    obtain ⟨session', held', evolves⟩ := grows number session held
    refine ⟨session', held', ?_⟩
    rw [evolves.identity]
    exact more begun
  | error fault => exact more found

theorem Purpose.Origin.grows {number : Nat} {purpose : Purpose}
    (origin : purpose.Origin registry story number) (grows : Grows registry after)
    (more : story ⊆ later) : purpose.Origin after later number := by
  cases purpose with
  | closing =>
    obtain ⟨session, held, closed⟩ := origin
    obtain ⟨session', held', evolves⟩ := grows number session held
    exact ⟨session', held', evolves.inactive closed⟩
  | request | eviction =>
    obtain ⟨command, begun⟩ := origin
    exact ⟨command, more begun⟩

theorem Origin.grows {progress : Progress Op Result} (origin : Origin registry story progress)
    (grows : Grows registry after) (more : story ⊆ later) : Origin after later progress := by
  cases progress with
  | running op =>
    cases op with
    | find _ | join _ | waiting _ _ | findAgain _ _ | creating _ _ | close _ => exact more origin
    | leave ticket answer => exact Found.grows origin grows more
    | onSession purpose number op => exact Purpose.Origin.grows origin grows more
    | evict identity => trivial
  | ended result =>
    cases result with
    | found answer => exact Found.grows origin grows more
    | closed _ | session _ | evicted => trivial

theorem origin_afterSession (registry : Registry) (number : Nat) (result : Session.Result)
    (purpose : Purpose) :
    Origin after story (registry.afterSession number result purpose).progress := by
  cases purpose with
  | request => trivial
  | closing => cases result <;> trivial
  | eviction =>
    simp only [afterSession]
    split <;> trivial

/-- A session that goes on keeps its origin. -/
theorem origin_ofSessionMove {number : Nat} {purpose : Purpose}
    {move : Move Session Session.Op Session.Result} (origin : purpose.Origin after story number) :
    Origin after story (registry.ofSessionMove purpose number move).progress := by
  cases move with
  | go session op => exact origin
  | done session result => exact origin_afterSession ..

theorem origin_step (mapped : Mapped registry) {op : Op} (origin : Origin registry story (.running op))
    (more : story ⊆ later) :
    Origin (registry.step op).state later (registry.step op).progress := by
  have grows := (settles_step registry op).grows
  cases op with
  | find identity =>
    simp only [step]
    split
    case h_1 number found =>
      obtain ⟨session, held, rfl, _⟩ := mapped.get?_iff.1 found
      exact ⟨session, held, more origin⟩
    case h_2 => exact more origin
  | findAgain identity ticket =>
    simp only [step]
    split
    case h_1 number found =>
      obtain ⟨session, held, rfl, _⟩ := mapped.get?_iff.1 found
      exact ⟨session, held, more origin⟩
    case h_2 => exact more origin
  | waiting identity ticket =>
    simp only [step]
    split <;> exact more origin
  | join identity | creating identity ticket => exact more origin
  | leave ticket answer => exact Found.grows origin grows more
  | close identity =>
    simp only [step]
    split
    case h_1 number found =>
      split
      case h_1 session held =>
        rw [state_ofSessionMove]
        apply origin_ofSessionMove
        exact ⟨_, getElem?_putSession_self held, session.active_step_claim .asked⟩
      case h_2 => trivial
    case h_2 => trivial
  | onSession purpose number op =>
    have kept := Purpose.Origin.grows origin grows more
    generalize (registry.step (.onSession purpose number op)).state = state at kept
    simp only [step]
    split
    case h_1 =>
      split
      case h_1 => exact origin_ofSessionMove kept
      case h_2 => exact kept
      case h_3 => exact origin_ofSessionMove kept
    case h_2 => trivial
  | evict identity => trivial

theorem origin_resume {op : Op} {number : Nat} {call : ClientCall} (stamp : String)
    (answer : ClientAnswer) (waits : op.request? = some (.call number call))
    (origin : Origin registry story (.running op)) (more : story ⊆ later) :
    Origin (registry.resume stamp answer op).state later
      (registry.resume stamp answer op).progress := by
  have grows := (settles_resume registry stamp answer op).grows
  cases op with
  | onSession purpose number op =>
    have kept := Purpose.Origin.grows origin grows more
    generalize (registry.resume stamp answer (.onSession purpose number op)).state = state at kept
    simp only [resume]
    split
    case h_1 => exact origin_ofSessionMove kept
    case h_2 => trivial
  | _ => cases waits

theorem origin_of_moves (mapped : Mapped registry) {op : Op} {told : List Note}
    {move : Move Registry Op Result} (moved : Moves registry op told move)
    (origin : Origin registry story (.running op)) :
    Origin move.state (story ++ (told ++ notesOf move)) move.progress := by
  have more : story ⊆ story ++ (told ++ notesOf move) := List.subset_append_left ..
  cases moved with
  | step can => exact origin_step mapped origin more
  | provision identity ticket answer =>
    cases answer with
    | ok _ =>
      refine ⟨registry.newSession identity, ?_, more origin⟩
      simp [created, adopt, map]
    | error fault =>
      show Note.provided (.error fault) ∈ _
      simp
  | answer stamp waits admitted => exact origin_resume stamp _ waits origin more

/-! ## Making a session -/

theorem ofSessionMove_ne_creating {purpose : Purpose} {number : Nat}
    {move : Move Session Session.Op Session.Result} {identity : Identity} {ticket : Nat}
    (reached : (registry.ofSessionMove purpose number move).progress =
      .running (.creating identity ticket)) : False := by
  have free := ticketOf_ofSessionMove registry purpose number move
  rw [reached] at free
  cases free

/-- Whoever comes to ask the provider for a client has just found no active session. -/
theorem get?_of_creating {op : Op} {told : List Note} {move : Move Registry Op Result}
    (moved : Moves registry op told move) {identity : Identity} {ticket : Nat}
    (reached : move.progress = .running (.creating identity ticket)) :
    move.state.get? identity = none := by
  cases moved with
  | step can =>
    cases op with
    | findAgain other ticket' =>
      simp only [step] at reached ⊢
      split at reached
      case h_1 => cases reached
      case h_2 missing =>
        obtain ⟨rfl, _⟩ := Op.creating.inj (Progress.running.inj reached)
        exact missing
    | find other =>
      simp only [step] at reached
      split at reached <;> cases reached
    | waiting other ticket' =>
      simp only [step] at reached
      split at reached <;> cases reached
    | join other | leave ticket' answer | evict other => cases reached
    | creating other ticket' => cases can
    | close other =>
      simp only [step] at reached
      split at reached
      case h_1 =>
        split at reached
        case h_1 => exact (ofSessionMove_ne_creating reached).elim
        case h_2 => cases reached
      case h_2 => cases reached
    | onSession purpose number op =>
      simp only [step] at reached
      split at reached
      case h_1 =>
        split at reached
        case h_1 => exact (ofSessionMove_ne_creating reached).elim
        case h_2 => cases reached
        case h_3 => exact (ofSessionMove_ne_creating reached).elim
      case h_2 => cases reached
  | provision other ticket' answer => cases answer <;> cases reached
  | answer stamp waits admitted =>
    cases op with
    | onSession purpose number op =>
      simp only [resume] at reached
      split at reached
      case h_1 => exact (ofSessionMove_ne_creating reached).elim
      case h_2 => cases reached
    | _ => cases waits

/-! ## Runs -/

/-- What every run keeps. -/
structure Sound (run : Run) : Prop where
  tidy : run.Tidy
  mapped : Mapped run.state
  line : InLine run.state.makers run.members
  /-- While the provider is creating a client, its identity has no active session. -/
  creating : ∀ (member : Nat) identity ticket,
    run.members[member]? = some (.running (.creating identity ticket)) →
      run.state.get? identity = none
  origins : run.Keeps Origin

theorem sound_fresh (receiveTimeout : Nat) : Sound { state := fresh receiveTimeout } where
  tidy := by intro number note member; cases member
  mapped := mapped_fresh receiveTimeout
  line := by
    constructor
    case known => intro ticket member; cases member
    case held => intro member progress ticket found; cases found
    case apart => intro first second one other ticket found; cases found
    case turn => intro member progress ticket found; cases found
  creating := by intro member identity ticket found; cases found
  origins := by intro number progress found; cases found

theorem sound_launch {run : Run} (sound : Sound run) {op : Op} (begins : op.Begins) :
    Sound (launch run op) where
  tidy := Crew.tidy_enter sound.tidy op
  mapped := sound.mapped
  line := inLine_launch sound.line begins
  creating := by
    intro member identity ticket found
    rw [launch, Crew.members_enter] at found
    split at found
    case isTrue =>
      obtain rfl := Progress.running.inj (Option.some.inj found)
      cases begins
    case isFalse => exact sound.creating member identity ticket found
  origins := by
    apply Crew.keeps_enter sound.tidy sound.origins
    cases begins with
    | find identity | close identity => exact List.mem_singleton_self _
    | request number command => exact ⟨command, List.mem_singleton_self _⟩
    | eviction number => exact ⟨.close, List.mem_singleton_self _⟩

theorem sound_follow {run : Run} (sound : Sound run) {member : Nat} {op : Op} {told : List Note}
    {move : Move Registry Op Result} (held : run.members[member]? = some (.running op))
    (moved : Moves run.state op told move) :
    Sound (run.follow member move (told ++ notesOf move)) where
  tidy := Crew.tidy_follow held sound.tidy
  mapped := by
    rcases settles_of_moves moved with settles | ⟨identity, ticket, rfl, rfl⟩
    · exact mapped_settles sound.mapped settles
    · exact mapped_adopt sound.mapped (sound.creating member identity ticket held)
  line := inLine_follow sound.line held (lineMove_of_moves moved)
  creating := by
    intro other identity ticket found
    rcases members_follow_cases held found with ⟨rfl, reached⟩ | ⟨apart, kept⟩
    · exact get?_of_creating moved reached.symm
    · rcases settles_of_moves moved with settles | ⟨identity', ticket', rfl, rfl⟩
      · exact get?_eq_none_of_settles settles (sound.creating other identity ticket kept)
      · exact absurd (sound.line.unique kept held rfl rfl) apart
  origins := by
    apply Crew.keeps_follow held sound.origins
    · intro story progress origin
      exact origin.grows (grows_of_moves moved) (List.Subset.refl story)
    · exact origin_of_moves sound.mapped moved

theorem sound_drift {run : Run} (sound : Sound run) {state : Registry}
    (drifts : Drifts run.state state) : Sound (run.drift state []) where
  tidy := Crew.tidy_drift sound.tidy state
  mapped := mapped_settles sound.mapped drifts.settles
  line := by
    show InLine state.makers run.members
    rw [drifts.makers]
    exact sound.line
  creating := by
    intro member identity ticket found
    exact get?_eq_none_of_settles drifts.settles (sound.creating member identity ticket found)
  origins := by
    apply Crew.keeps_drift sound.origins
    intro story progress origin
    exact origin.grows drifts.settles.grows (List.Subset.refl story)

theorem sound_act {run : Run} (sound : Sound run) (event : Event) : Sound (act run event) := by
  apply act_induction sound
  case launches => exact fun run op begins sound => sound_launch sound begins
  case moves => exact fun member op told move _ held moved => sound_follow sound held moved
  case drifts => exact fun state drifts => sound_drift sound drifts

theorem sound_run (receiveTimeout : Nat) (events : List Event) :
    Sound (run (fresh receiveTimeout) events) := by
  apply List.foldlRecOn (motive := Sound)
  · exact sound_fresh receiveTimeout
  · intro before sound event _
    exact sound_act sound event

/-! ## What one event can do to an active session -/

theorem sessions_ofSessionMove_of_ne {purpose : Purpose} {number other : Nat}
    (apart : number ≠ other) (move : Move Session Session.Op Session.Result) :
    (registry.ofSessionMove purpose number move).state.sessions[other]? =
      registry.sessions[other]? := by
  rw [state_ofSessionMove]
  exact List.getElem?_set_ne apart

theorem sessions_resume_of_ne {number other : Nat} (apart : number ≠ other) (stamp : String)
    (answer : ClientAnswer) (purpose : Purpose) (op : Session.Op) :
    (registry.resume stamp answer (.onSession purpose number op)).state.sessions[other]? =
      registry.sessions[other]? := by
  simp only [resume]
  split
  case h_1 => exact sessions_ofSessionMove_of_ne apart _
  case h_2 => rfl

/-- A move leaves a session alone unless it closes the session that is mapped under an identity or
deals with just that session. -/
theorem session_of_moves {op : Op} {told : List Note} {move : Move Registry Op Result}
    (moved : Moves registry op told move) {number : Nat} {session : Session}
    (held : registry.sessions[number]? = some session) :
    move.state.sessions[number]? = some session ∨
      (∃ identity, op = .close identity ∧ registry.numberOf? identity = some number) ∨
        ∃ purpose inner, op = .onSession purpose number inner := by
  cases moved with
  | step can =>
    cases op with
    | find identity =>
      simp only [step]
      split <;> exact .inl held
    | waiting identity ticket =>
      simp only [step]
      split <;> exact .inl held
    | findAgain identity ticket =>
      simp only [step]
      split <;> exact .inl held
    | join identity | creating identity ticket | leave ticket answer => exact .inl held
    | close identity =>
      cases found : registry.numberOf? identity with
      | none =>
        simp only [step, found]
        exact .inl held
      | some mapped =>
        by_cases same : mapped = number
        · exact .inr (.inl ⟨identity, rfl, same ▸ found⟩)
        · simp only [step, found]
          split
          case h_1 => exact .inl ((sessions_ofSessionMove_of_ne same _).trans held)
          case h_2 => exact .inl held
    | onSession purpose other inner =>
      by_cases same : other = number
      · exact .inr (.inr ⟨purpose, inner, same ▸ rfl⟩)
      · simp only [step]
        split
        case h_1 =>
          split
          case h_1 =>
            left
            rw [sessions_ofSessionMove_of_ne same, sessions_hear]
            exact held
          case h_2 => exact .inl held
          case h_3 => exact .inl ((sessions_ofSessionMove_of_ne same _).trans held)
        case h_2 => exact .inl held
    | evict identity =>
      left
      simp only [step, evictInactive, Move.state_done]
      split
      case h_1 => split <;> exact held
      case h_2 => exact held
  | provision identity ticket answer =>
    cases answer with
    | ok _ =>
      have within := (List.getElem?_eq_some_iff.1 held).1
      left
      simpa [created, adopt, map, List.getElem?_append_left within] using held
    | error fault => exact .inl held
  | answer stamp waits admitted =>
    cases op with
    | onSession purpose other inner =>
      by_cases same : other = number
      · exact .inr (.inr ⟨purpose, inner, same ▸ rfl⟩)
      · exact .inl ((sessions_resume_of_ne same stamp _ purpose inner).trans held)
    | _ => cases waits

/-- What it means that a registry keeps at most one active session for each identity. -/
structure OneActive (run : Run) : Prop where
  /-- Each active session is the one that is mapped under its identity. -/
  mapped : ∀ (number : Nat) (session : Session), run.state.sessions[number]? = some session →
    session.active = true → run.state.numberOf? session.identity = some number
  single : ∀ (first second : Nat) (one other : Session),
    run.state.sessions[first]? = some one → run.state.sessions[second]? = some other →
      one.active = true → other.active = true → one.identity = other.identity → first = second
  /-- Only the session that was made last for an identity can be active. -/
  latest : ∀ (first second : Nat) (one other : Session),
    run.state.sessions[first]? = some one → run.state.sessions[second]? = some other →
      one.identity = other.identity → first < second → one.active = false
  /-- Looking for a session finds the active one. -/
  get : ∀ identity number, run.state.get? identity = some number ↔
    ∃ session, run.state.sessions[number]? = some session ∧ session.identity = identity ∧
      session.active = true
  /-- The provider is asked for a client only while the identity has no active session, and for one
  client at a time. -/
  creating : ∀ (member : Nat) identity ticket,
    run.members[member]? = some (.running (.creating identity ticket)) →
      ∀ (number : Nat) (session : Session), run.state.sessions[number]? = some session →
        session.identity = identity → session.active = false
  creator : ∀ (first second : Nat) identity identity' ticket ticket',
    run.members[first]? = some (.running (.creating identity ticket)) →
      run.members[second]? = some (.running (.creating identity' ticket')) → first = second
  /-- Whoever asks for a session of an identity gets one of that identity, unless the provider fails. -/
  found : ∀ (member number : Nat), run.members[member]? = some (.ended (.found (.ok number))) →
    ∃ session, run.state.sessions[number]? = some session ∧
      .begun (.find session.identity) ∈ run.story member
  failed : ∀ (member : Nat) fault, run.members[member]? = some (.ended (.found (.error fault))) →
    .provided (.error fault) ∈ run.story member

/-- What it means that an event of a run spares the active sessions. -/
structure Spares (run : Run) (event : Event) : Prop where
  /-- Whatever is forgotten, a session that is active stays the one that is found. -/
  kept : ∀ identity number, run.state.get? identity = some number →
    (act run event).state.isActive number = true →
      (act run event).state.get? identity = some number
  /-- An active session is turned inactive only by an operation that closes its identity or was asked
  for with just that session. -/
  closed : ∀ (number : Nat) (session : Session), run.state.sessions[number]? = some session →
    session.active = true → (act run event).state.isActive number = false →
      ∃ member, event.member? = some member ∧
        (.begun (.close session.identity) ∈ run.story member ∨
          ∃ purpose command, .begun (.onSession purpose number (.begin command)) ∈ run.story member)
  /-- A session is made only for an identity without an active one. -/
  made : ∀ (number : Nat) (session : Session), run.state.sessions[number]? = none →
    (act run event).state.sessions[number]? = some session →
      run.state.get? session.identity = none
  /-- Whoever looks for a session of an identity that has an active one gets that one. -/
  finds : ∀ (member : Nat) identity number, event = .steps member →
    run.state.get? identity = some number →
      run.members[member]? = some (.running (.find identity)) →
        (act run event).state = run.state ∧
          (act run event).members[member]? = some (.ended (.found (.ok number)))
  findsAgain : ∀ (member : Nat) identity ticket number, event = .steps member →
    run.state.get? identity = some number →
      run.members[member]? = some (.running (.findAgain identity ticket)) →
        (act run event).state = run.state ∧
          (act run event).members[member]? = some (.running (.leave ticket (.ok number)))
  /-- Where the provider fails nothing changes. -/
  failure : ∀ member fault, event = .provides member (.error fault) →
    (act run event).state = run.state

section

variable {run : Run} {event : Event}

/-- Only an operation that was asked for with a session, or with its identity, turns it inactive. -/
theorem Sound.closed (sound : Sound run) {number : Nat} {session : Session}
    (held : run.state.sessions[number]? = some session) (active : session.active = true) :
    (act run event).state.isActive number = false → ∃ member, event.member? = some member ∧
      (.begun (.close session.identity) ∈ run.story member ∨
        ∃ purpose command, .begun (.onSession purpose number (.begin command)) ∈ run.story member) := by
  have now : run.state.isActive number = true := isActive_iff.2 ⟨session, held, active⟩
  refine @act_induction (fun later => later.state.isActive number = false → _) run event ?now
    ?launches ?moves ?drifts
  case now =>
    intro closed
    rw [now] at closed
    cases closed
  case launches => exact fun _ _ _ => id
  case drifts =>
    intro state drifts closed
    rw [Crew.state_drift, drifts.active, now] at closed
    cases closed
  case moves =>
    intro member op told move same held' moved closed
    refine ⟨member, same, ?_⟩
    have origin := sound.origins member _ held'
    rcases session_of_moves moved held with kept | ⟨identity, rfl, found⟩ | ⟨purpose, inner, rfl⟩
    · have still : move.state.isActive number = true := isActive_iff.2 ⟨session, kept, active⟩
      rw [Crew.state_follow, still] at closed
      cases closed
    · obtain ⟨session', held'', rfl⟩ := sound.mapped.named identity number found
      obtain rfl := Option.some.inj (held.symm.trans held'')
      exact .inl origin
    · cases purpose with
      | closing =>
        obtain ⟨session', held'', inactive⟩ := origin
        obtain rfl := Option.some.inj (held.symm.trans held'')
        rw [active] at inactive
        cases inactive
      | request | eviction => exact .inr ⟨_, origin⟩

/-- A session is made only for an identity without an active one. -/
theorem Sound.made (sound : Sound run) {number : Nat} {session : Session}
    (missing : run.state.sessions[number]? = none) :
    (act run event).state.sessions[number]? = some session →
      run.state.get? session.identity = none := by
  have settled : ∀ state, Settles run.state state → state.sessions[number]? = some session →
      run.state.get? session.identity = none := by
    intro state settles held
    obtain ⟨earlier, was, _⟩ := settles.sessions number session held
    rw [missing] at was
    cases was
  refine @act_induction (fun later => later.state.sessions[number]? = some session → _) run event
    ?now ?launches ?moves ?drifts
  case now => exact settled _ (.refl run.state)
  case launches => exact fun _ _ _ => id
  case drifts => exact fun state drifts => settled state drifts.settles
  case moves =>
    intro member op told move _ held moved
    rcases settles_of_moves moved with settles | ⟨identity, ticket, rfl, rfl⟩
    · exact settled _ settles
    · intro found
      rcases getElem?_sessions_adopt run.state identity found with old | ⟨_, rfl⟩
      · rw [missing] at old
        cases old
      · exact sound.creating member identity ticket held

theorem grows_act (run : Run) (event : Event) : Grows run.state (act run event).state := by
  have still : Grows run.state run.state := (Settles.refl run.state).grows
  refine @act_induction (Grows run.state ·.state) run event still ?launches ?moves ?drifts
  case launches => exact fun _ _ _ => id
  case moves => exact fun _ _ _ _ _ _ moved => grows_of_moves moved
  case drifts => exact fun _ drifts => drifts.settles.grows

/-- A session that is active stays the one that is found. -/
theorem Sound.kept (sound : Sound run) {identity : Identity} {number : Nat}
    (found : run.state.get? identity = some number)
    (active : (act run event).state.isActive number = true) :
    (act run event).state.get? identity = some number := by
  obtain ⟨session, held, same, _⟩ := sound.mapped.get?_iff.1 found
  obtain ⟨later, held', evolves⟩ := grows_act run event number session held
  obtain ⟨later', held'', active⟩ := isActive_iff.1 active
  obtain rfl := Option.some.inj (held'.symm.trans held'')
  exact (sound_act sound event).mapped.get?_iff.2
    ⟨later, held', evolves.identity.trans same, active⟩

/-- An operation that can step does. -/
theorem act_steps {member : Nat} {op : Op} (held : run.members[member]? = some (.running op))
    (can : run.state.canStep op = true) :
    act run (.steps member) =
      run.follow member (run.state.step op) (notesOf (run.state.step op)) := by
  simp [act, Crew.advance, held, onStep, can]

theorem Sound.oneActive (sound : Sound run) : OneActive run where
  mapped := sound.mapped.active
  single := by
    intro first second one other held held' active active' same
    have found := sound.mapped.active first one held active
    rw [same, sound.mapped.active second other held' active'] at found
    exact (Option.some.inj found).symm
  latest := sound.mapped.latest
  get := fun _ _ => sound.mapped.get?_iff
  creating := by
    intro member identity ticket held number session held' same
    exact sound.mapped.inactive_of_get? (sound.creating member identity ticket held) held' same
  creator := by
    intro first second identity identity' ticket ticket' held held'
    exact sound.line.unique held held' rfl rfl
  found := fun member number held => sound.origins member _ held
  failed := fun member fault held => sound.origins member _ held

theorem Sound.spares (sound : Sound run) (event : Event) : Spares run event where
  kept := fun identity number => sound.kept
  closed := fun number session held active => sound.closed held active
  made := fun number session missing => sound.made missing
  finds := by
    rintro member identity number rfl found held
    have move : run.state.step (.find identity) = .done run.state (.found (.ok number)) := by
      simp only [step, found]
    rw [act_steps held rfl, move, Crew.members_follow held, if_pos rfl]
    exact ⟨rfl, rfl⟩
  findsAgain := by
    rintro member identity ticket number rfl found held
    have move : run.state.step (.findAgain identity ticket) =
        .go run.state (.leave ticket (.ok number)) := by
      simp only [step, found]
    rw [act_steps held rfl, move, Crew.members_follow held, if_pos rfl]
    exact ⟨rfl, rfl⟩
  failure := by
    rintro member fault rfl
    refine @Crew.advance_induction _ _ _ _ _ _ (fun later => later.state = run.state) _ rfl ?_
    intro op move notes held allowed
    unfold onProvision at allowed
    split at allowed
    case h_1 =>
      obtain ⟨rfl, _⟩ := Prod.mk.inj (Option.some.inj allowed)
      rfl
    case h_2 => cases allowed

end

/-- However operations, announcements of clients and failures of the provider come in between each
other, a registry keeps at most one active session for each identity, and it is the one that is found. -/
theorem oneActive_run (receiveTimeout : Nat) (events : List Event) :
    OneActive (run (fresh receiveTimeout) events) ∧
      ∀ event, Spares (run (fresh receiveTimeout) events) event := by
  have sound := sound_run receiveTimeout events
  exact ⟨sound.oneActive, sound.spares⟩

end Registry

end DeviceGateway
