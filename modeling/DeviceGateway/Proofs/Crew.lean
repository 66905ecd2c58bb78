/-
# Operations at the same time

Sessions, registries, clients and links are written as operations in steps.  A crew puts any number of
such operations to work on one state: its members are numbered in the order in which they began, each of
them is at some position or over, and whoever drives the crew chooses which member moves next.  A run of
a crew is therefore one interleaving of its members, and what holds after every run holds for every way
of running the operations at the same time.

The log of a crew keeps what its members did that others can see, and what happened outside of them, in
the order in which it happened.  The entries of one member are its story.  Most invariants of this
library are of two kinds: a fact about the state and the whole log, and a relation between the story of
a member and its position, which the other members cannot disturb.
-/

import DeviceGateway.Session.Client
import Mathlib.Data.List.Basic

namespace DeviceGateway

/-- How far an operation has come. -/
inductive Progress (Op Result : Type) where
  /-- It is at a position. -/
  | running (op : Op)
  /-- It is over. -/
  | ended (result : Result)
deriving Repr

/-- How far an operation has come after a step. -/
def Move.progress {State Op Result : Type} : Move State Op Result → Progress Op Result
  | go _ op => .running op
  | done _ result => .ended result

@[simp]
theorem Move.progress_go {State Op Result : Type} (state : State) (op : Op) :
    (Move.go state op : Move State Op Result).progress = .running op := rfl

@[simp]
theorem Move.progress_done {State Op Result : Type} (state : State) (result : Result) :
    (Move.done state result : Move State Op Result).progress = .ended result := rfl

/-- Operations at work on one state. -/
structure Crew (State Op Result Note : Type) where
  state : State
  /-- The operations, from the one that began first on. -/
  members : List (Progress Op Result) := []
  /-- What has happened, from the oldest on, with the number of the member that did it. -/
  log : List (Option Nat × Note) := []

namespace Crew

variable {State Op Result Note : Type}

/-- The entries of one member in a log. -/
def entriesOf (number : Nat) (log : List (Option Nat × Note)) : List Note :=
  log.filterMap fun entry => if entry.1 = some number then some entry.2 else none

/-- What one member has done. -/
def story (crew : Crew State Op Result Note) (number : Nat) : List Note :=
  entriesOf number crew.log

/-- An operation begins. -/
def enter (crew : Crew State Op Result Note) (op : Op) (notes : List Note) :
    Crew State Op Result Note where
  state := crew.state
  members := crew.members ++ [.running op]
  log := crew.log ++ notes.map fun note => (some crew.members.length, note)

/-- A member moves. -/
def follow (crew : Crew State Op Result Note) (number : Nat) (move : Move State Op Result)
    (notes : List Note) : Crew State Op Result Note where
  state := move.state
  members := crew.members.set number move.progress
  log := crew.log ++ notes.map fun note => (some number, note)

/-- The state changes from outside. -/
def drift (crew : Crew State Op Result Note) (state : State) (notes : List Note) :
    Crew State Op Result Note where
  state
  members := crew.members
  log := crew.log ++ notes.map fun note => (none, note)

/-- Let a member move, if it is at a position from which it can. -/
def advance (crew : Crew State Op Result Note) (number : Nat)
    (rule : Op → Option (Move State Op Result × List Note)) : Crew State Op Result Note :=
  match crew.members[number]? with
  | some (.running op) =>
    match rule op with
    | some (move, notes) => crew.follow number move notes
    | none => crew
  | _ => crew

/-- No entry of the log belongs to a member that does not exist. -/
def Tidy (crew : Crew State Op Result Note) : Prop :=
  ∀ number note, (some number, note) ∈ crew.log → number < crew.members.length

/-- The story of each member fits its position in the present state. -/
def Keeps (crew : Crew State Op Result Note)
    (Fits : State → List Note → Progress Op Result → Prop) : Prop :=
  ∀ number progress, crew.members[number]? = some progress →
    Fits crew.state (crew.story number) progress

variable {crew : Crew State Op Result Note} {Fits : State → List Note → Progress Op Result → Prop}
  {number : Nat} {progress : Progress Op Result} {move : Move State Op Result} {notes : List Note}

/-! ## Logs and stories -/

theorem mem_log_enter {owner : Option Nat} {note : Note} (op : Op) :
    (owner, note) ∈ (crew.enter op notes).log ↔
      (owner, note) ∈ crew.log ∨ owner = some crew.members.length ∧ note ∈ notes := by
  simp only [enter, List.mem_append, List.mem_map, Prod.mk.injEq]
  grind

theorem mem_log_follow {owner : Option Nat} {note : Note} :
    (owner, note) ∈ (crew.follow number move notes).log ↔
      (owner, note) ∈ crew.log ∨ owner = some number ∧ note ∈ notes := by
  simp only [follow, List.mem_append, List.mem_map, Prod.mk.injEq]
  grind

theorem mem_log_drift {owner : Option Nat} {note : Note} (state : State) :
    (owner, note) ∈ (crew.drift state notes).log ↔
      (owner, note) ∈ crew.log ∨ owner = none ∧ note ∈ notes := by
  simp only [drift, List.mem_append, List.mem_map, Prod.mk.injEq]
  grind

theorem mem_entriesOf {log : List (Option Nat × Note)} {note : Note} :
    note ∈ entriesOf number log ↔ (some number, note) ∈ log := by
  simp only [entriesOf, List.mem_filterMap]
  constructor
  · rintro ⟨entry, member, found⟩
    split at found
    case isTrue same =>
      obtain rfl := Option.some.inj found
      rwa [← same]
    case isFalse => cases found
  · intro member
    exact ⟨_, member, if_pos rfl⟩

theorem mem_story {note : Note} : note ∈ crew.story number ↔ (some number, note) ∈ crew.log :=
  mem_entriesOf

@[simp]
theorem entriesOf_append (first second : List (Option Nat × Note)) :
    entriesOf number (first ++ second) = entriesOf number first ++ entriesOf number second :=
  List.filterMap_append

@[simp]
theorem entriesOf_map_self (notes : List Note) :
    entriesOf number (notes.map fun note => (some number, note)) = notes := by
  simp [entriesOf, List.filterMap_map]

theorem entriesOf_map_of_ne {owner : Option Nat} (apart : owner ≠ some number)
    (notes : List Note) : entriesOf number (notes.map fun note => (owner, note)) = [] := by
  simp [entriesOf, List.filterMap_map, apart]

@[simp]
theorem story_follow_self :
    (crew.follow number move notes).story number = crew.story number ++ notes := by
  simp [story, follow]

theorem story_follow_of_ne {other : Nat} (apart : number ≠ other) :
    (crew.follow number move notes).story other = crew.story other := by
  have strange : (some number : Option Nat) ≠ some other := fun same => apart (Option.some.inj same)
  simp [story, follow, entriesOf_map_of_ne strange]

@[simp]
theorem story_drift (state : State) : (crew.drift state notes).story number = crew.story number := by
  have strange : (none : Option Nat) ≠ some number := nofun
  simp [story, drift, entriesOf_map_of_ne strange]

theorem story_enter_of_ne {other : Nat} (op : Op) (apart : crew.members.length ≠ other) :
    (crew.enter op notes).story other = crew.story other := by
  have strange : (some crew.members.length : Option Nat) ≠ some other :=
    fun same => apart (Option.some.inj same)
  simp [story, enter, entriesOf_map_of_ne strange]

/-- Before an operation begins it has no story. -/
theorem story_length (tidy : crew.Tidy) : crew.story crew.members.length = [] := by
  rw [List.eq_nil_iff_forall_not_mem]
  intro note member
  exact Nat.lt_irrefl _ (tidy _ _ (mem_story.1 member))

theorem story_enter_self (tidy : crew.Tidy) (op : Op) :
    (crew.enter op notes).story crew.members.length = notes := by
  have before : entriesOf crew.members.length crew.log = [] := story_length tidy
  simp [story, enter, before]

/-! ## Members -/

theorem members_follow (held : crew.members[number]? = some progress) (other : Nat) :
    (crew.follow number move notes).members[other]? =
      if other = number then some move.progress else crew.members[other]? := by
  have within : number < crew.members.length := (List.getElem?_eq_some_iff.1 held).1
  by_cases same : other = number
  · subst same
    simp [follow, within]
  · simp [follow, same, List.getElem?_set_ne (Ne.symm same)]

theorem members_enter (op : Op) (other : Nat) :
    (crew.enter op notes).members[other]? =
      if other = crew.members.length then some (.running op) else crew.members[other]? := by
  simp only [enter, List.getElem?_append, List.getElem?_singleton]
  split
  case isTrue within => rw [if_neg (Nat.ne_of_lt within)]
  case isFalse beyond =>
    by_cases same : other = crew.members.length
    · simp [same]
    · have later : other - crew.members.length ≠ 0 := by omega
      rw [if_neg later, if_neg same, List.getElem?_eq_none (Nat.le_of_not_lt beyond)]

/-- A member is where it was after another operation has begun, and after another member has moved. -/
theorem member_enter {other : Nat} (op : Op) (held : crew.members[other]? = some progress) :
    (crew.enter op notes).members[other]? = some progress := by
  have within : other < crew.members.length := (List.getElem?_eq_some_iff.1 held).1
  rw [members_enter, if_neg (Nat.ne_of_lt within), held]

theorem member_follow_self (held : crew.members[number]? = some progress) :
    (crew.follow number move notes).members[number]? = some move.progress := by
  rw [members_follow held, if_pos rfl]

theorem member_follow_of_ne (held : crew.members[number]? = some progress) {other : Nat}
    (apart : other ≠ number) {reached : Progress Op Result}
    (found : crew.members[other]? = some reached) :
    (crew.follow number move notes).members[other]? = some reached := by
  rw [members_follow held, if_neg apart, found]

/-- What holds of a crew and of every move it allows one member holds after that member was let move. -/
theorem advance_induction {Holds : Crew State Op Result Note → Prop}
    {rule : Op → Option (Move State Op Result × List Note)} (now : Holds crew)
    (moved : ∀ op move notes, crew.members[number]? = some (.running op) →
      rule op = some (move, notes) → Holds (crew.follow number move notes)) :
    Holds (crew.advance number rule) := by
  unfold advance
  split
  case h_1 op held =>
    split
    case h_1 move notes allowed => exact moved op move notes held allowed
    case h_2 => exact now
  case h_2 => exact now

/-! ## Tidy logs -/

theorem tidy_enter (tidy : crew.Tidy) (op : Op) : (crew.enter op notes).Tidy := by
  intro owner note member
  have longer : (crew.enter op notes).members.length = crew.members.length + 1 := List.length_append
  rcases (mem_log_enter op).1 member with old | ⟨same, _⟩
  · have := tidy owner note old
    omega
  · have := Option.some.inj same
    omega

theorem tidy_follow (held : crew.members[number]? = some progress) (tidy : crew.Tidy) :
    (crew.follow number move notes).Tidy := by
  intro owner note member
  have same : (crew.follow number move notes).members.length = crew.members.length :=
    List.length_set
  rw [same]
  rcases mem_log_follow.1 member with old | ⟨same, _⟩
  · exact tidy owner note old
  · obtain rfl := Option.some.inj same
    exact (List.getElem?_eq_some_iff.1 held).1

theorem tidy_drift (tidy : crew.Tidy) (state : State) : (crew.drift state notes).Tidy := by
  intro owner note member
  rcases (mem_log_drift state).1 member with old | ⟨same, _⟩
  · exact tidy owner note old
  · cases same

/-! ## Stories that fit -/

theorem keeps_enter (tidy : crew.Tidy) (kept : crew.Keeps Fits) {op : Op}
    (begins : Fits crew.state notes (.running op)) : (crew.enter op notes).Keeps Fits := by
  intro other progress found
  rw [members_enter] at found
  split at found
  case isTrue same =>
    obtain rfl := Option.some.inj found
    rw [same, story_enter_self tidy]
    exact begins
  case isFalse apart =>
    rw [story_enter_of_ne op (Ne.symm apart)]
    exact kept other progress found

/-- A step keeps the stories fitting if it does so for the member that moves, and if its change of the
state does not matter to the others. -/
theorem keeps_follow (held : crew.members[number]? = some progress) (kept : crew.Keeps Fits)
    (stable : ∀ story progress, Fits crew.state story progress → Fits move.state story progress)
    (moves : Fits crew.state (crew.story number) progress →
      Fits move.state (crew.story number ++ notes) move.progress) :
    (crew.follow number move notes).Keeps Fits := by
  intro other reached found
  rw [members_follow held] at found
  split at found
  case isTrue same =>
    obtain rfl := Option.some.inj found
    subst same
    rw [story_follow_self]
    exact moves (kept other progress held)
  case isFalse apart =>
    rw [story_follow_of_ne (Ne.symm apart)]
    exact stable _ _ (kept other reached found)

theorem keeps_drift (kept : crew.Keeps Fits) {state : State}
    (stable : ∀ story progress, Fits crew.state story progress → Fits state story progress) :
    (crew.drift state notes).Keeps Fits := by
  intro other reached found
  rw [story_drift]
  exact stable _ _ (kept other reached found)

/-- Whoever has done something is a member, and its story fits its position. -/
theorem Keeps.exists_fits (kept : crew.Keeps Fits) (tidy : crew.Tidy) {note : Note}
    (told : note ∈ crew.story number) : ∃ progress, crew.members[number]? = some progress ∧
      Fits crew.state (crew.story number) progress := by
  have held := List.getElem?_eq_getElem (tidy number note (mem_story.1 told))
  exact ⟨_, held, kept number _ held⟩

/-! ## Positions -/

/-- Some member is at a position of a kind. -/
def AnyAt (crew : Crew State Op Result Note) (Kind : Op → Prop) : Prop :=
  ∃ (member : Nat) (op : Op), crew.members[member]? = some (.running op) ∧ Kind op

/-- All members that are not over are at positions of a kind. -/
def AllAt (crew : Crew State Op Result Note) (Kind : Op → Prop) : Prop :=
  ∀ (member : Nat) (op : Op), crew.members[member]? = some (.running op) → Kind op

section

variable {Kind : Op → Prop} {op : Op}

theorem anyAt_enter (op : Op) (found : crew.AnyAt Kind) : (crew.enter op notes).AnyAt Kind := by
  obtain ⟨member, reached, held, kind⟩ := found
  exact ⟨member, reached, member_enter op held, kind⟩

theorem allAt_enter (all : crew.AllAt Kind) (kind : Kind op) : (crew.enter op notes).AllAt Kind := by
  intro member reached held
  rw [members_enter] at held
  split at held
  case isTrue =>
    obtain rfl := Progress.running.inj (Option.some.inj held)
    exact kind
  case isFalse => exact all member reached held

/-- Whoever was at a position of a kind still is, unless that was the member that moved. -/
theorem anyAt_follow (held : crew.members[number]? = some (.running op)) (found : crew.AnyAt Kind)
    (keeps : Kind op → ∃ later, move.progress = .running later ∧ Kind later) :
    (crew.follow number move notes).AnyAt Kind := by
  obtain ⟨member, reached, held', kind⟩ := found
  by_cases same : member = number
  · subst same
    obtain rfl := Progress.running.inj (Option.some.inj (held'.symm.trans held))
    obtain ⟨later, comes, kind'⟩ := keeps kind
    exact ⟨member, later, (member_follow_self held).trans (congrArg some comes), kind'⟩
  · exact ⟨member, reached, member_follow_of_ne held same held', kind⟩

theorem anyAt_follow_self (held : crew.members[number]? = some (.running op)) {later : Op}
    (comes : move.progress = .running later) (kind : Kind later) :
    (crew.follow number move notes).AnyAt Kind :=
  ⟨number, later, (member_follow_self held).trans (congrArg some comes), kind⟩

theorem allAt_follow {Kind' : Op → Prop} (held : crew.members[number]? = some (.running op))
    (all : crew.AllAt Kind) (stable : ∀ reached, Kind reached → Kind' reached)
    (keeps : ∀ later, move.progress = .running later → Kind' later) :
    (crew.follow number move notes).AllAt Kind' := by
  intro member reached held'
  rw [members_follow held] at held'
  split at held'
  case isTrue => exact keeps reached (Option.some.inj held')
  case isFalse => exact stable reached (all member reached held')

end

/-! ## Counting -/

@[simp]
theorem state_enter (op : Op) : (crew.enter op notes).state = crew.state := rfl

@[simp]
theorem state_follow : (crew.follow number move notes).state = move.state := rfl

@[simp]
theorem state_drift (state : State) : (crew.drift state notes).state = state := rfl

theorem countP_log_enter (counted : Note → Bool) (op : Op) :
    ((crew.enter op notes).log.countP fun entry => counted entry.2) =
      (crew.log.countP fun entry => counted entry.2) + notes.countP counted := by
  simp [enter, List.countP_append, List.countP_map, Function.comp_def]

theorem countP_log_follow (counted : Note → Bool) :
    ((crew.follow number move notes).log.countP fun entry => counted entry.2) =
      (crew.log.countP fun entry => counted entry.2) + notes.countP counted := by
  simp [follow, List.countP_append, List.countP_map, Function.comp_def]

theorem countP_log_drift (counted : Note → Bool) (state : State) :
    ((crew.drift state notes).log.countP fun entry => counted entry.2) =
      (crew.log.countP fun entry => counted entry.2) + notes.countP counted := by
  simp [drift, List.countP_append, List.countP_map, Function.comp_def]

theorem countP_members_enter (counted : Progress Op Result → Bool) (op : Op) :
    (crew.enter op notes).members.countP counted =
      crew.members.countP counted + if counted (.running op) then 1 else 0 := by
  simp [enter, List.countP_append, List.countP_singleton]

theorem countP_members_follow (held : crew.members[number]? = some progress)
    (move : Move State Op Result) (notes : List Note) (counted : Progress Op Result → Bool) :
    (crew.follow number move notes).members.countP counted + (if counted progress then 1 else 0) =
      crew.members.countP counted + if counted move.progress then 1 else 0 := by
  obtain ⟨within, rfl⟩ := List.getElem?_eq_some_iff.1 held
  have positive : counted crew.members[number] = true → 0 < crew.members.countP counted :=
    fun marked => List.countP_pos_iff.2 ⟨_, List.getElem_mem within, marked⟩
  simp only [follow, List.countP_set within]
  by_cases marked : counted crew.members[number] = true
  · have := positive marked
    simp only [marked, if_true]
    omega
  · simp [marked]

/-- What happens at most once in every story that fits happens at most once in the story of a member. -/
theorem Keeps.countP_story_le_one (kept : crew.Keeps Fits) (tidy : crew.Tidy) {counted : Note → Bool}
    (once : ∀ story progress, Fits crew.state story progress → story.countP counted ≤ 1)
    (number : Nat) : (crew.story number).countP counted ≤ 1 := by
  by_cases silent : crew.story number = []
  · rw [silent]
    exact Nat.zero_le 1
  · obtain ⟨note, told⟩ := List.exists_mem_of_ne_nil _ silent
    obtain ⟨progress, _, fits⟩ := kept.exists_fits tidy told
    exact once _ progress fits

/-- Two entries that are counted where only one is are the same. -/
theorem eq_of_countP_le_one {counted : Option Nat × Note → Bool} {one other : Option Nat × Note}
    (once : crew.log.countP counted ≤ 1) (member : one ∈ crew.log) (marked : counted one = true)
    (member' : other ∈ crew.log) (marked' : counted other = true) : one = other := by
  rw [List.countP_eq_length_filter] at once
  have held : one ∈ crew.log.filter counted := List.mem_filter.2 ⟨member, marked⟩
  have held' : other ∈ crew.log.filter counted := List.mem_filter.2 ⟨member', marked'⟩
  cases kept : crew.log.filter counted with
  | nil =>
    rw [kept] at held
    cases held
  | cons first rest =>
    rw [kept] at once held held'
    have alone : rest = [] := List.eq_nil_of_length_eq_zero (by simpa using once)
    subst alone
    rw [List.mem_singleton.1 held, List.mem_singleton.1 held']

/-- What the log says of the events that happened, if each event adds what it brings. -/
theorem filterMap_log_foldl {Event Fact : Type}
    {act : Crew State Op Result Note → Event → Crew State Op Result Note} {fact? : Note → Option Fact}
    {brings? : Event → Option Fact}
    (step : ∀ crew event, ((act crew event).log.filterMap fun entry => fact? entry.2) =
      (crew.log.filterMap fun entry => fact? entry.2) ++ (brings? event).toList)
    (crew : Crew State Op Result Note) (events : List Event) :
    ((events.foldl act crew).log.filterMap fun entry => fact? entry.2) =
      (crew.log.filterMap fun entry => fact? entry.2) ++ events.filterMap brings? := by
  induction events generalizing crew with
  | nil => exact (List.append_nil _).symm
  | cons event events ih =>
    rw [List.foldl_cons, ih, step, List.append_assoc]
    cases brought : brings? event <;> simp [brought]

/-- What each member does at most once, and no two members do, happens at most once. -/
theorem countP_log_le_one (counted : Note → Bool)
    (inside : ∀ owner note, (owner, note) ∈ crew.log → counted note = true → owner.isSome)
    (once : ∀ number, (crew.story number).countP counted ≤ 1)
    (same : ∀ first second one other, (some first, one) ∈ crew.log → counted one = true →
      (some second, other) ∈ crew.log → counted other = true → first = second) :
    (crew.log.countP fun entry => counted entry.2) ≤ 1 := by
  by_cases happens : ∃ entry ∈ crew.log, counted entry.2 = true
  · obtain ⟨⟨owner, note⟩, member, marked⟩ := happens
    obtain ⟨number, rfl⟩ := Option.isSome_iff_exists.1 (inside owner note member marked)
    -- All counted entries are those of one member, so that its story counts them all.
    have whole : (crew.log.countP fun entry => counted entry.2) =
        (crew.story number).countP counted := by
      rw [story, entriesOf, List.countP_filterMap]
      apply List.countP_congr
      rintro ⟨other, note'⟩ member'
      constructor
      · intro marked'
        obtain ⟨number', rfl⟩ := Option.isSome_iff_exists.1 (inside _ _ member' marked')
        obtain rfl := same _ _ _ _ member marked member' marked'
        simpa using marked'
      · by_cases owned : other = some number <;> simp [owned]
    rw [whole]
    exact once number
  · have never : (crew.log.countP fun entry => counted entry.2) = 0 := by
      rw [List.countP_eq_zero]
      intro entry member marked
      exact happens ⟨entry, member, marked⟩
    omega

end Crew

end DeviceGateway
