/-
# Runs of a registry

Any number of operations work on one registry and its sessions at the same time.  Besides the events
that let an operation begin or go on there are those that come from the clients: a client announces a
status, at any time and also after its session was replaced, and the receive loops of the inboxes go on.
Closing all sessions begins one operation for each identity that is mapped then.

With the exception of making a session, whatever happens to a registry settles it: its sessions evolve,
and it forgets no identity whose session is active.
-/

import DeviceGateway.Proofs.Session.Run
import DeviceGateway.Registry.Basic

namespace DeviceGateway

namespace Registry

/-- A registry in which no session was made yet. -/
def fresh (receiveTimeout : Nat) : Registry := { receiveTimeout }

/-- What can be seen of the operations on a registry. -/
inductive Note where
  | begun (op : Op)
  | asked (request : Request)
  | provided (answer : Answer Unit)
  | answered (number : Nat) (call : ClientCall) (answer : ClientAnswer)
  | ended (result : Result)

/-- A registry with the operations at work on it. -/
abbrev Run := Crew Registry Op Result Note

/-- What happens in a run. -/
inductive Event where
  /-- Somebody asks for a session of an identity. -/
  | finds (identity : Identity)
  | closes (identity : Identity)
  | closesAll
  /-- The owner of a session asks something of it. -/
  | requests (number : Nat) (command : Session.Command)
  | steps (member : Nat)
  /-- The provider has created a client, or failed to. -/
  | provides (member : Nat) (answer : Answer Unit)
  | answers (member : Nat) (stamp : String) (answer : ClientAnswer)
  /-- A client announces a status; `isThere` says whether anybody still holds its session. -/
  | announces (number : Nat) (status : ConnectionStatus) (reason : StatusReason) (isThere : Bool)
  | loops (number inbox : Nat) (event : Inbox.LoopEvent)

/-- The operation that an event lets move. -/
def Event.member? : Event → Option Nat
  | steps member | provides member _ | answers member _ _ => some member
  | _ => none

/-- What can be seen of a move. -/
def notesOf : Move Registry Op Result → List Note
  | .go _ op => (op.request?.map Note.asked).toList
  | .done _ result => [.ended result]

def onStep (registry : Registry) (op : Op) : Option (Move Registry Op Result × List Note) :=
  if registry.canStep op then some (registry.step op, notesOf (registry.step op)) else none

def onProvision (registry : Registry) (answer : Answer Unit) (op : Op) :
    Option (Move Registry Op Result × List Note) :=
  match op with
  | .creating _ _ =>
    some (registry.created answer op, .provided answer :: notesOf (registry.created answer op))
  | _ => none

def onAnswer (registry : Registry) (stamp : String) (answer : ClientAnswer) (op : Op) :
    Option (Move Registry Op Result × List Note) :=
  match op.request? with
  | some (.call number call) =>
    if call.admits answer then
      let move := registry.resume stamp answer op
      some (move, .answered number call answer :: notesOf move)
    else none
  | _ => none

def onLoop (registry : Registry) (number inbox : Nat) (event : Inbox.LoopEvent) : Registry :=
  match registry.sessions[number]? with
  | some session =>
    registry.putSession number (session.mapInbox inbox fun inbox => inbox.onLoop event)
  | none => registry

/-- An operation begins. -/
def launch (run : Run) (op : Op) : Run := run.enter op [.begun op]

/-- A run after one more event. -/
def act (run : Run) : Event → Run
  | .finds identity => launch run (.find identity)
  | .closes identity => launch run (.close identity)
  | .closesAll => (run.state.identities.map Op.close).foldl launch run
  | .requests number command => launch run (.onSession .request number (.begin command))
  | .steps member => run.advance member run.state.onStep
  | .provides member answer => run.advance member (run.state.onProvision answer)
  | .answers member stamp answer => run.advance member (run.state.onAnswer stamp answer)
  | .announces number status reason isThere =>
    let (registry, eviction?) := run.state.announce number status reason isThere
    eviction?.toList.foldl launch (run.drift registry [])
  | .loops number inbox event => run.drift (run.state.onLoop number inbox event) []

def onward (run : Run) (events : List Event) : Run := events.foldl act run

/-- The run of a registry through a list of events. -/
def run (registry : Registry) (events : List Event) : Run := onward { state := registry } events

/-- The moves that an operation can make, with what it is told. -/
inductive Moves (registry : Registry) : Op → List Note → Move Registry Op Result → Prop
  | step {op : Op} (can : registry.canStep op = true) : Moves registry op [] (registry.step op)
  | provision (identity : Identity) (ticket : Nat) (answer : Answer Unit) :
      Moves registry (.creating identity ticket) [.provided answer]
        (registry.created answer (.creating identity ticket))
  | answer {op : Op} {number : Nat} {call : ClientCall} {answer : ClientAnswer} (stamp : String)
      (waits : op.request? = some (.call number call)) (admitted : call.admits answer = true) :
      Moves registry op [.answered number call answer] (registry.resume stamp answer op)

/-! ## What is mapped -/

@[simp]
theorem numberOf?_unmap_self (registry : Registry) (identity : Identity) :
    (registry.unmap identity).numberOf? identity = none := by
  simp [numberOf?, unmap]

theorem numberOf?_unmap_of_ne (registry : Registry) {identity other : Identity}
    (apart : other ≠ identity) :
    (registry.unmap identity).numberOf? other = registry.numberOf? other := by
  simp only [numberOf?, unmap, List.find?_filter]
  congr 2
  funext entry
  by_cases same : entry.1 = other <;> simp [same, apart]

theorem numberOf?_map (registry : Registry) (identity other : Identity) (number : Nat) :
    (registry.map identity number).numberOf? other =
      if other = identity then some number else registry.numberOf? other := by
  by_cases same : other = identity
  · subst same
    have none : ((registry.unmap other).mapped.find? fun entry => entry.1 = other) = none := by
      simpa [numberOf?] using registry.numberOf?_unmap_self other
    simp [numberOf?, map, List.find?_append, none]
  · have kept := registry.numberOf?_unmap_of_ne same
    simp only [numberOf?] at kept
    simp [numberOf?, map, List.find?_append, same, kept, Ne.symm same]

/-- A number that is forgotten was the one that is mapped. -/
theorem numberOf?_of_unmap {registry : Registry} {identity other : Identity} {number : Nat}
    (found : (registry.unmap identity).numberOf? other = some number) :
    other ≠ identity ∧ registry.numberOf? other = some number := by
  by_cases same : other = identity
  · rw [same, numberOf?_unmap_self] at found
    cases found
  · rw [numberOf?_unmap_of_ne registry same] at found
    exact ⟨same, found⟩

/-! ## How a registry changes -/

/-- What whatever happens to a registry keeps, unless a session is made: its sessions evolve, no
identity is mapped anew, and none whose session is active is forgotten. -/
structure Settles (before after : Registry) : Prop where
  receiveTimeout : after.receiveTimeout = before.receiveTimeout
  length : after.sessions.length = before.sessions.length
  sessions : ∀ (number : Nat) (session : Session), after.sessions[number]? = some session →
    ∃ earlier, before.sessions[number]? = some earlier ∧ Session.Evolves earlier session
  mapped : ∀ identity number, after.numberOf? identity = some number →
    before.numberOf? identity = some number
  spared : ∀ (number : Nat) (session : Session), after.sessions[number]? = some session → session.active = true →
    before.numberOf? session.identity = some number →
      after.numberOf? session.identity = some number

/-- A change that concerns neither the sessions nor what is mapped. -/
theorem settles_of_eq {before after : Registry} (timeouts : after.receiveTimeout = before.receiveTimeout)
    (sessions : after.sessions = before.sessions) (mapped : after.mapped = before.mapped) :
    Settles before after where
  receiveTimeout := timeouts
  length := by rw [sessions]
  sessions := by
    intro number session held
    rw [sessions] at held
    exact ⟨session, held, .refl session⟩
  mapped := by
    intro identity number found
    simpa [numberOf?, mapped] using found
  spared := by
    intro number session _ _ found
    simpa [numberOf?, mapped] using found

theorem Settles.refl (registry : Registry) : Settles registry registry := settles_of_eq rfl rfl rfl

theorem Settles.trans {first second third : Registry} (early : Settles first second)
    (late : Settles second third) : Settles first third where
  receiveTimeout := late.receiveTimeout.trans early.receiveTimeout
  length := late.length.trans early.length
  sessions := by
    intro number session held
    obtain ⟨middle, held, evolves⟩ := late.sessions number session held
    obtain ⟨earlier, held, evolves'⟩ := early.sessions number middle held
    exact ⟨earlier, held, evolves'.trans evolves⟩
  mapped := by
    intro identity number found
    exact early.mapped identity number (late.mapped identity number found)
  spared := by
    intro number session held active found
    obtain ⟨middle, held', evolves⟩ := late.sessions number session held
    have kept := early.spared number middle held' (evolves.active active)
    rw [← evolves.identity] at kept
    exact late.spared number session held active (kept found)

theorem getElem?_putSession_self {registry : Registry} {number : Nat} {earlier session : Session}
    (held : registry.sessions[number]? = some earlier) :
    (registry.putSession number session).sessions[number]? = some session := by
  have within := (List.getElem?_eq_some_iff.1 held).1
  simp [putSession, within]

/-- A session takes the place of one that evolves to it. -/
theorem settles_putSession {registry : Registry} {number : Nat} {earlier session : Session}
    (held : registry.sessions[number]? = some earlier)
    (evolves : Session.Evolves earlier session) :
    Settles registry (registry.putSession number session) where
  receiveTimeout := rfl
  length := by simp [putSession]
  sessions := by
    intro other later found
    by_cases same : number = other
    · subst same
      rw [getElem?_putSession_self held] at found
      obtain rfl := Option.some.inj found
      exact ⟨earlier, held, evolves⟩
    · have kept : registry.sessions[other]? = some later := by
        simpa [putSession, List.getElem?_set_ne same] using found
      exact ⟨later, kept, .refl later⟩
  mapped := fun _ _ => id
  spared := fun _ _ _ _ => id

/-- An identity may be forgotten once its session is inactive. -/
theorem settles_unmap {before after : Registry} {identity : Identity}
    (settles : Settles before after)
    (inactive : ∀ (number : Nat) (session : Session), before.numberOf? identity = some number →
      after.sessions[number]? = some session → session.active = false) :
    Settles before (after.unmap identity) where
  receiveTimeout := settles.receiveTimeout
  length := settles.length
  sessions := settles.sessions
  mapped := by
    intro other number found
    exact settles.mapped other number (numberOf?_of_unmap found).2
  spared := by
    intro number session held active found
    have apart : session.identity ≠ identity := by
      rintro rfl
      rw [inactive number session found held] at active
      cases active
    rw [numberOf?_unmap_of_ne after apart]
    exact settles.spared number session held active found

theorem settles_evictInactive (registry : Registry) (identity : Identity) :
    Settles registry (registry.evictInactive identity) := by
  unfold evictInactive
  split
  case h_1 number found =>
    split
    case isTrue => exact .refl registry
    case isFalse closed =>
      apply settles_unmap (.refl registry)
      intro other session found' held
      obtain rfl := Option.some.inj (found.symm.trans found')
      simpa [isActive, held] using closed
  case h_2 => exact .refl registry

theorem settles_publish (registry : Registry) (identity : Identity) (status : ConnectionStatus)
    (reason : StatusReason) : Settles registry (registry.publish identity status reason) :=
  settles_of_eq rfl rfl rfl

theorem settles_hear (registry : Registry) (identity : Identity) (status : ConnectionStatus)
    (reason : StatusReason) : Settles registry (registry.hear identity status reason) := by
  unfold hear
  split
  case isTrue => exact (settles_evictInactive registry identity).trans (settles_publish ..)
  case isFalse => exact settles_publish ..

/-- What a registry keeps when no operation moves. -/
structure Drifts (before after : Registry) : Prop where
  settles : Settles before after
  makers : after.makers = before.makers
  active : ∀ number, after.isActive number = before.isActive number

theorem Drifts.refl (registry : Registry) : Drifts registry registry :=
  ⟨.refl registry, rfl, fun _ => rfl⟩

theorem drifts_announce (registry : Registry) (number : Nat) (status : ConnectionStatus)
    (reason : StatusReason) (isThere : Bool) :
    Drifts registry (registry.announce number status reason isThere).1 := by
  unfold announce
  split
  case h_1 => exact ⟨settles_publish .., rfl, fun _ => rfl⟩
  case h_2 => exact .refl registry

theorem drifts_onLoop (registry : Registry) (number inbox : Nat) (event : Inbox.LoopEvent) :
    Drifts registry (registry.onLoop number inbox event) := by
  unfold onLoop
  split
  case h_1 session held =>
    refine ⟨settles_putSession held (Session.evolves_mapInbox ..), rfl, ?_⟩
    intro other
    by_cases same : number = other
    · subst same
      simp [isActive, getElem?_putSession_self held, held]
    · simp [isActive, putSession, List.getElem?_set_ne same]
  case h_2 => exact .refl registry

@[simp]
theorem state_afterSession (registry : Registry) (number : Nat) (result : Session.Result)
    (purpose : Purpose) : (registry.afterSession number result purpose).state = registry := by
  cases purpose with
  | request => rfl
  | closing => cases result <;> rfl
  | eviction =>
    simp only [afterSession]
    split <;> rfl

@[simp]
theorem state_ofSessionMove (registry : Registry) (purpose : Purpose) (number : Nat)
    (move : Move Session Session.Op Session.Result) :
    (registry.ofSessionMove purpose number move).state = registry.putSession number move.state := by
  cases move <;> simp [ofSessionMove]

@[simp]
theorem sessions_evictInactive (registry : Registry) (identity : Identity) :
    (registry.evictInactive identity).sessions = registry.sessions := by
  unfold evictInactive
  split
  case h_1 => split <;> rfl
  case h_2 => rfl

@[simp]
theorem sessions_hear (registry : Registry) (identity : Identity) (status : ConnectionStatus)
    (reason : StatusReason) : (registry.hear identity status reason).sessions = registry.sessions := by
  unfold hear
  split
  case isTrue => exact sessions_evictInactive registry identity
  case isFalse => rfl

/-- Closing an active session through the registry turns it inactive as it is forgotten. -/
theorem settles_close {registry : Registry} {identity : Identity} {number : Nat} {session : Session}
    (found : registry.numberOf? identity = some number)
    (held : registry.sessions[number]? = some session) :
    Settles registry
      ((registry.unmap identity).putSession number (session.step (.claim .asked)).state) := by
  have evolves := Session.evolves_step session (.claim .asked)
  -- Forgetting first or last comes to the same.
  show Settles registry
    ((registry.putSession number (session.step (.claim .asked)).state).unmap identity)
  apply settles_unmap (settles_putSession held evolves)
  intro other later found' held'
  obtain rfl := Option.some.inj (found.symm.trans found')
  rw [getElem?_putSession_self held] at held'
  obtain rfl := Option.some.inj held'
  exact session.active_step_claim .asked

theorem settles_step (registry : Registry) (op : Op) : Settles registry (registry.step op).state := by
  cases op with
  | find identity =>
    simp only [step]
    split <;> exact .refl registry
  | join identity => exact settles_of_eq rfl rfl rfl
  | waiting identity ticket =>
    simp only [step]
    split <;> exact .refl registry
  | findAgain identity ticket =>
    simp only [step]
    split <;> exact .refl registry
  | creating identity ticket => exact .refl registry
  | leave ticket answer => exact settles_of_eq rfl rfl rfl
  | close identity =>
    simp only [step]
    split
    case h_1 number found =>
      split
      case h_1 session held =>
        rw [state_ofSessionMove]
        exact settles_close found held
      case h_2 missing =>
        apply settles_unmap (.refl registry)
        intro other session found' held
        obtain rfl := Option.some.inj (found.symm.trans found')
        rw [missing] at held
        cases held
    case h_2 => exact .refl registry
  | onSession purpose number op =>
    simp only [step]
    split
    case h_1 session held =>
      split
      case h_1 status reason _ =>
        rw [state_ofSessionMove]
        refine (settles_hear registry session.identity status reason).trans ?_
        apply settles_putSession _ (Session.evolves_reported session op)
        rw [sessions_hear]
        exact held
      case h_2 => exact .refl registry
      case h_3 =>
        rw [state_ofSessionMove]
        exact settles_putSession held (Session.evolves_step session op)
    case h_2 => exact .refl registry
  | evict identity => exact settles_evictInactive registry identity

theorem settles_resume (registry : Registry) (stamp : String) (answer : ClientAnswer) (op : Op) :
    Settles registry (registry.resume stamp answer op).state := by
  cases op with
  | onSession purpose number op =>
    simp only [resume]
    split
    case h_1 session held =>
      rw [state_ofSessionMove]
      exact settles_putSession held (Session.evolves_resume session stamp answer op)
    case h_2 => exact .refl registry
  | _ => exact .refl registry

/-- An operation makes a session, after its client was created, or settles the registry. -/
theorem settles_of_moves {registry : Registry} {op : Op} {told : List Note}
    {move : Move Registry Op Result} (moved : Moves registry op told move) :
    Settles registry move.state ∨ ∃ identity ticket, op = .creating identity ticket ∧
      move = .go (registry.adopt identity) (.leave ticket (.ok registry.sessions.length)) := by
  cases moved with
  | step can => exact .inl (settles_step registry op)
  | provision identity ticket answer =>
    cases answer with
    | ok _ => exact .inr ⟨identity, ticket, rfl, rfl⟩
    | error fault => exact .inl (.refl registry)
  | answer stamp waits admitted => exact .inl (settles_resume registry stamp _ op)

/-- No session is forgotten for good: those that were made evolve. -/
def Grows (before after : Registry) : Prop :=
  ∀ (number : Nat) (session : Session), before.sessions[number]? = some session →
    ∃ later, after.sessions[number]? = some later ∧ Session.Evolves session later

theorem Settles.grows {before after : Registry} (settles : Settles before after) :
    Grows before after := by
  intro number session held
  have within : number < after.sessions.length := by
    rw [settles.length]
    exact (List.getElem?_eq_some_iff.1 held).1
  obtain ⟨earlier, held', evolves⟩ := settles.sessions number _ (List.getElem?_eq_getElem within)
  obtain rfl := Option.some.inj (held.symm.trans held')
  exact ⟨_, List.getElem?_eq_getElem within, evolves⟩

theorem grows_adopt (registry : Registry) (identity : Identity) :
    Grows registry (registry.adopt identity) := by
  intro number session held
  have within := (List.getElem?_eq_some_iff.1 held).1
  refine ⟨session, ?_, .refl session⟩
  simpa [adopt, map, List.getElem?_append_left within] using held

theorem grows_of_moves {registry : Registry} {op : Op} {told : List Note}
    {move : Move Registry Op Result} (moved : Moves registry op told move) :
    Grows registry move.state := by
  rcases settles_of_moves moved with settles | ⟨identity, ticket, _, rfl⟩
  · exact settles.grows
  · exact grows_adopt registry identity

/-! ## Induction on events -/

/-- The positions at which operations begin. -/
inductive Op.Begins : Op → Prop
  | find (identity : Identity) : Begins (.find identity)
  | close (identity : Identity) : Begins (.close identity)
  | request (number : Nat) (command : Session.Command) :
      Begins (.onSession .request number (.begin command))
  | eviction (number : Nat) : Begins (.onSession .eviction number (.begin .close))

/-- What is kept when an operation begins, when one moves and when the registry drifts is kept by
every event. -/
theorem act_induction {Holds : Run → Prop} {run : Run} {event : Event} (now : Holds run)
    (launches : ∀ run op, op.Begins → Holds run → Holds (launch run op))
    (moves : ∀ member op told move, event.member? = some member →
      run.members[member]? = some (.running op) → Moves run.state op told move →
      Holds (run.follow member move (told ++ notesOf move)))
    (drifts : ∀ state, Drifts run.state state → Holds (run.drift state [])) :
    Holds (act run event) := by
  cases event with
  | finds identity => exact launches run _ (.find identity) now
  | closes identity => exact launches run _ (.close identity) now
  | closesAll =>
    apply List.foldlRecOn (motive := Holds) _ _ now
    intro run holds op member
    obtain ⟨identity, _, rfl⟩ := List.mem_map.1 member
    exact launches run _ (.close identity) holds
  | requests number command => exact launches run _ (.request number command) now
  | steps member =>
    apply Crew.advance_induction now
    intro op move notes held allowed
    unfold onStep at allowed
    split at allowed
    case isTrue can =>
      obtain ⟨rfl, rfl⟩ := Prod.mk.inj (Option.some.inj allowed)
      exact moves member op [] _ rfl held (.step can)
    case isFalse => cases allowed
  | provides member answer =>
    apply Crew.advance_induction now
    intro op move notes held allowed
    unfold onProvision at allowed
    split at allowed
    case h_1 identity ticket =>
      obtain ⟨rfl, rfl⟩ := Prod.mk.inj (Option.some.inj allowed)
      exact moves member _ [_] _ rfl held (.provision identity ticket answer)
    case h_2 => cases allowed
  | answers member stamp answer =>
    apply Crew.advance_induction now
    intro op move notes held allowed
    unfold onAnswer at allowed
    split at allowed
    case h_1 number call waits =>
      split at allowed
      case isTrue admitted =>
        obtain ⟨rfl, rfl⟩ := Prod.mk.inj (Option.some.inj allowed)
        exact moves member op [_] _ rfl held (.answer stamp waits admitted)
      case isFalse => cases allowed
    case h_2 => cases allowed
  | announces number status reason isThere =>
    have kept := drifts_announce run.state number status reason isThere
    apply List.foldlRecOn (motive := Holds) _ _ (drifts _ kept)
    intro run holds op member
    split at member
    case h_1 =>
      split at member
      case isTrue =>
        obtain rfl : op = .onSession .eviction number (.begin .close) := by simpa using member
        exact launches run _ (.eviction number) holds
      case isFalse => cases member
    case h_2 => cases member
  | loops number inbox event => exact drifts _ (drifts_onLoop run.state number inbox event)

end Registry

end DeviceGateway
