/-
# The numbers of twin requests

Every twin request gets a number of its own as its identifier.  The numbers begin again after sixty-four
bits, so this holds as long as fewer requests have begun: there is a number for each request that has
begun, and those that were given out are the ones below the next.
-/

import DeviceGateway.Proofs.Uplink.Run

namespace DeviceGateway

/-- Different numbers have different numerals. -/
theorem Numeral.ofNat_injective {first second : Nat} (same : ofNat first = ofNat second) :
    first = second := by
  have digits : Nat.toDigits 10 first = Nat.toDigits 10 second := by
    rw [← Nat.toList_repr, ← Nat.toList_repr]
    exact congrArg String.toList same
  calc
    first = Nat.ofDigitChars 10 (Nat.toDigits 10 first) 0 := Nat.ofDigitChars_ten_toDigits.symm
    _ = Nat.ofDigitChars 10 (Nat.toDigits 10 second) 0 := by rw [digits]
    _ = second := Nat.ofDigitChars_ten_toDigits

namespace Uplink

namespace Note

/-- Whether a note says that a request got its identifier. -/
def isRegistered : Note → Bool
  | registered _ => true
  | _ => false

/-- Whether a note says that a twin request began. -/
def isRequest : Note → Bool
  | begun call => (twinRequest? call).isSome
  | _ => false

end Note

/-- Whether an event begins a twin request. -/
def Event.isRequest : Event → Bool
  | begins call => (twinRequest? call).isSome
  | _ => false

variable {uplink : Uplink} {op : Op} {told : List Note} {move : Move Uplink Op ClientAnswer}

/-- The end of a call is all that is told at the end. -/
theorem registered_not_mem_endOf (requestId : String) : .registered requestId ∉ endOf move := by
  intro member
  cases move with
  | go state op => cases member
  | done state answer => cases List.mem_singleton.1 member

/-- A move either gives a new request the next number, or leaves the numbers alone. -/
theorem DeskMove.numbers (moved : DeskMove uplink op told move) : isNew move.progress = false ∧
    (op.isNew = true ∧ told = [.registered (Numeral.ofNat uplink.nextRequest)] ∧
        move.state.nextRequest = (uplink.nextRequest + 1) % Word.count64 ∨
      op.isNew = false ∧ (∀ requestId, .registered requestId ∉ told) ∧
        move.state.nextRequest = uplink.nextRequest) := by
  cases moved with
  | register asks => exact ⟨rfl, .inl ⟨by rw [Op.isNew, asks]; rfl, rfl, rfl⟩⟩
  | publish opened same => exact ⟨rfl, .inr ⟨rfl, by simp, same.nextRequest⟩⟩
  | fail fault same => exact ⟨rfl, .inr ⟨rfl, by simp, same.nextRequest⟩⟩
  | abandon | refuse missing gone | timeUp missing waits => exact ⟨rfl, .inr ⟨rfl, by simp, rfl⟩⟩
  | take arrived => exact ⟨rfl, .inr ⟨rfl, by simp, rfl⟩⟩
  | close =>
    refine ⟨rfl, .inr ⟨rfl, by simp, ?_⟩⟩
    simp only [Uplink.close, Move.state_done]
    split <;> rfl
  | aside before old same after begun =>
    refine ⟨?_, .inr ⟨old, by simp, same.nextRequest⟩⟩
    cases reached : move.progress with
    | ended answer => rfl
    | running next =>
      cases next with
      | begin call => exact absurd reached (begun call)
      | _ => rfl

/-! ## The numbers that were given out -/

/-- How many identifiers were given out in a run. -/
def registrations (run : Run) : Nat := run.log.countP fun entry => entry.2.isRegistered

/-- How many twin requests have begun in a run. -/
def requests (run : Run) : Nat := run.log.countP fun entry => entry.2.isRequest

/-- Each request that has begun has its number or will get one. -/
structure Numbered (run : Run) : Prop where
  count : registrations run + run.members.countP isNew = requests run
  next : run.state.nextRequest = (1 + registrations run) % Word.count64
  given : ∀ owner requestId, (owner, .registered requestId) ∈ run.log →
    ∃ number, 1 ≤ number ∧ number ≤ registrations run ∧ requestId = Numeral.ofNat number
  apart : ∀ first second requestId, (some first, .registered requestId) ∈ run.log →
    (some second, .registered requestId) ∈ run.log → first = second

variable {run : Run} {member : Nat}

/-- The next number was not given out yet. -/
theorem Numbered.fresh (numbered : Numbered run) (few : requests run < Word.count64)
    (held : run.members[member]? = some (.running op)) (new : op.isNew = true) :
    run.state.nextRequest = 1 + registrations run ∧ ∀ owner requestId,
      (owner, .registered requestId) ∈ run.log →
        requestId ≠ Numeral.ofNat run.state.nextRequest := by
  have waiting : 0 < run.members.countP isNew :=
    List.countP_pos_iff.2 ⟨_, List.mem_of_getElem? held, new⟩
  have next : run.state.nextRequest = 1 + registrations run := by
    rw [numbered.next, Nat.mod_eq_of_lt]
    have := numbered.count
    omega
  refine ⟨next, ?_⟩
  intro owner requestId registered same
  obtain ⟨number, _, bound, rfl⟩ := numbered.given owner requestId registered
  have := Numeral.ofNat_injective same
  omega

theorem numbered_fresh (identity : Identity) (settings : Settings.Hub)
    (router : Topic.Router Destination) : Numbered { state := fresh identity settings router } where
  count := rfl
  next := rfl
  given := fun _ _ => nofun
  apart := fun _ _ _ => nofun

/-- When no identifier is given out, every request that begins waits for one. -/
theorem Numbered.congr {after : Run} (numbered : Numbered run)
    (next : after.state.nextRequest = run.state.nextRequest)
    (waiting : after.members.countP isNew + requests run =
      run.members.countP isNew + requests after)
    (registered : registrations after = registrations run)
    (mem : ∀ owner requestId, (owner, .registered requestId) ∈ after.log →
      (owner, .registered requestId) ∈ run.log) : Numbered after where
  count := by
    have := numbered.count
    omega
  next := by
    rw [registered]
    exact next.trans numbered.next
  given := by
    intro owner requestId listed
    rw [registered]
    exact numbered.given owner requestId (mem owner requestId listed)
  apart := by
    intro first second requestId one other
    exact numbered.apart first second requestId (mem _ _ one) (mem _ _ other)

theorem numbered_enter (numbered : Numbered run) (call : ClientCall) :
    Numbered (run.enter (.begin call) [.begun call]) := by
  refine numbered.congr ?_ ?waiting ?registered ?mem
  case _ => rfl
  case waiting =>
    rw [Crew.countP_members_enter, requests, requests, Crew.countP_log_enter Note.isRequest,
      List.countP_singleton, Nat.add_right_comm, Nat.add_assoc]
    rfl
  case registered => exact Crew.countP_log_enter Note.isRegistered _
  case mem =>
    intro owner requestId listed
    simpa [Crew.enter] using listed

theorem numbered_drift (numbered : Numbered run) {state : Uplink} {notes : List Note}
    (next : state.nextRequest = run.state.nextRequest)
    (plain : ∀ note ∈ notes, note.isRegistered = false ∧ note.isRequest = false) :
    Numbered (run.drift state notes) := by
  apply numbered.congr next
  case waiting =>
    have none : notes.countP Note.isRequest = 0 :=
      List.countP_eq_zero.2 fun note member => by simp [(plain note member).2]
    rw [requests, requests, Crew.countP_log_drift Note.isRequest, none]
    rfl
  case registered =>
    have none : notes.countP Note.isRegistered = 0 :=
      List.countP_eq_zero.2 fun note member => by simp [(plain note member).1]
    rw [registrations, Crew.countP_log_drift Note.isRegistered, none]
    rfl
  case mem =>
    intro owner requestId listed
    rcases (Crew.mem_log_drift state).1 listed with old | ⟨_, told⟩
    · exact old
    · cases (plain _ told).1

theorem requests_follow (moved : DeskMove run.state op told move) :
    requests (run.follow member move (told ++ endOf move)) = requests run := by
  have none : (told ++ endOf move).countP Note.isRequest = 0 := by
    rw [List.countP_eq_zero]
    intro note listed marked
    cases note with
    | begun call => exact moved.begun_not_mem call listed
    | _ => cases marked
  rw [requests, Crew.countP_log_follow Note.isRequest, none]
  rfl

theorem registrations_follow : registrations (run.follow member move (told ++ endOf move)) =
    registrations run + told.countP Note.isRegistered := by
  have none : (endOf move).countP Note.isRegistered = 0 := by cases move <;> rfl
  rw [registrations, Crew.countP_log_follow Note.isRegistered, List.countP_append, none]
  rfl

/-- The identifiers after a move are the earlier ones and what the move tells of. -/
theorem registered_follow {owner : Option Nat} {requestId : String}
    (listed : (owner, .registered requestId) ∈
      (run.follow member move (told ++ endOf move)).log) :
    (owner, .registered requestId) ∈ run.log ∨
      owner = some member ∧ .registered requestId ∈ told := by
  rcases Crew.mem_log_follow.1 listed with old | ⟨owned, told'⟩
  · exact .inl old
  · rcases List.mem_append.1 told' with now | atEnd
    · exact .inr ⟨owned, now⟩
    · exact absurd atEnd (registered_not_mem_endOf requestId)

/-- The next number goes to a request that had none. -/
theorem numbered_register (numbered : Numbered run) (few : requests run < Word.count64)
    (held : run.members[member]? = some (.running op)) (new : op.isNew = true)
    (moved : DeskMove run.state op told move) (later : isNew move.progress = false)
    (given : told = [.registered (Numeral.ofNat run.state.nextRequest)])
    (next : move.state.nextRequest = (run.state.nextRequest + 1) % Word.count64) :
    Numbered (run.follow member move (told ++ endOf move)) := by
  obtain ⟨now, strange⟩ := numbered.fresh few held new
  have more : registrations (run.follow member move (told ++ endOf move)) =
      registrations run + 1 := by
    rw [registrations_follow, given]
    rfl
  have named {requestId : String} (listed : .registered requestId ∈ told) :
      requestId = Numeral.ofNat run.state.nextRequest := by
    rw [given] at listed
    exact Note.registered.inj (List.mem_singleton.1 listed)
  constructor
  case count =>
    have waiting := Crew.countP_members_follow held move (told ++ endOf move) isNew
    rw [later, show isNew (.running op) = true from new, if_pos rfl,
      if_neg Bool.false_ne_true] at waiting
    rw [requests_follow moved, more, ← numbered.count, Nat.add_right_comm]
    exact congrArg (registrations run + ·) waiting
  case next =>
    rw [more, ← Nat.add_assoc, ← now]
    exact next
  case given =>
    intro owner requestId listed
    rw [more]
    rcases registered_follow listed with old | ⟨rfl, told⟩
    · obtain ⟨number, low, high, rfl⟩ := numbered.given owner requestId old
      exact ⟨number, low, Nat.le_succ_of_le high, rfl⟩
    · exact ⟨run.state.nextRequest, by omega, by omega, named told⟩
  case apart =>
    intro first second requestId one other
    rcases registered_follow one with one | ⟨one, told⟩ <;>
      rcases registered_follow other with other | ⟨other, told'⟩
    · exact numbered.apart first second requestId one other
    · exact absurd (named told') (strange _ _ one)
    · exact absurd (named told) (strange _ _ other)
    · exact Option.some.inj (one.trans other.symm)

theorem numbered_follow (numbered : Numbered run) (few : requests run < Word.count64)
    (held : run.members[member]? = some (.running op)) (moved : DeskMove run.state op told move) :
    Numbered (run.follow member move (told ++ endOf move)) := by
  obtain ⟨later, ⟨new, given, next⟩ | ⟨old, none, next⟩⟩ := moved.numbers
  · exact numbered_register numbered few held new moved later given next
  · apply numbered.congr next
    case waiting =>
      have waiting := Crew.countP_members_follow held move (told ++ endOf move) isNew
      rw [later, show isNew (.running op) = false from old] at waiting
      rw [requests_follow moved]
      exact congrArg (· + requests run) waiting
    case registered =>
      rw [registrations_follow, Nat.add_eq_left, List.countP_eq_zero]
      intro note listed marked
      cases note with
      | registered requestId => exact none requestId listed
      | _ => cases marked
    case mem =>
      intro owner requestId listed
      exact (registered_follow listed).resolve_right fun new => none requestId new.2

/-- An event begins one request at most. -/
theorem requests_act_le (run : Run) (event : Event) :
    requests (act run event) ≤ requests run + if event.isRequest then 1 else 0 := by
  apply @act_induction fun after => requests after ≤ requests run + if event.isRequest then 1 else 0
  case begins =>
    rintro call rfl
    rw [requests, Crew.countP_log_enter Note.isRequest, List.countP_singleton]
    exact Nat.le_refl _
  case moves =>
    intro member op told move held moved
    rw [requests_follow moved]
    exact Nat.le_add_right _ _
  case arrives =>
    intro topic payload
    rw [requests, Crew.countP_log_drift Note.isRequest]
    exact Nat.le_add_right _ _
  case drifts =>
    intro state same
    rw [requests, Crew.countP_log_drift Note.isRequest]
    exact Nat.le_add_right _ _
  case now => exact Nat.le_add_right _ _

theorem requests_onward_le (run : Run) (events : List Event) :
    requests (onward run events) ≤ requests run + events.countP Event.isRequest := by
  induction events generalizing run with
  | nil => exact Nat.le_refl _
  | cons event rest ih =>
    have first := requests_act_le run event
    have others : requests (onward run (event :: rest)) ≤
        requests (act run event) + rest.countP Event.isRequest := ih (act run event)
    rw [List.countP_cons]
    omega

theorem requests_run_le (identity : Identity) (settings : Settings.Hub)
    (router : Topic.Router Destination) (events : List Event) :
    requests ((fresh identity settings router).run events) ≤ events.countP Event.isRequest := by
  have bound := requests_onward_le { state := fresh identity settings router } events
  have none : requests { state := fresh identity settings router } = 0 := rfl
  rw [none, Nat.zero_add] at bound
  exact bound

end Uplink

end DeviceGateway
