/-
# Whoever asks for a session gets an answer

Those who make a session stand in a line, and every ticket in the line belongs to an operation.  The
operation whose turn it is needs nobody else but the provider, which creates a client for it, and
leaves the line when it is done.  So everybody who stands in the line comes to have the turn, and whoever
asks for a session can be driven to the end.
-/

import DeviceGateway.Proofs.Fleet.Replacement

namespace DeviceGateway

/-- A ticket that has left a line makes it shorter. -/
theorem Line.length_leave_lt {line : Line} {ticket : Nat} (waits : ticket ∈ line.waiting) :
    (line.leave ticket).waiting.length < line.waiting.length :=
  List.length_filter_lt_length_iff_exists.2 ⟨ticket, waits, by simp⟩

namespace Fleet

open Registry (Result)

variable {fleet after : Fleet} {run later : Run} {member number : Nat} {op : Op} {notes : List Note}
  {move : Move Fleet Op Result} {identity : Identity} {ticket : Nat}

/-! ## Whose tickets stand in the line -/

/-- Every ticket in the line belongs to an operation. -/
def Owned (run : Run) : Prop :=
  ∀ ticket ∈ run.state.registry.makers.waiting, run.AnyAt fun op => op.base.ticket? = some ticket

theorem owned_follow (owned : Owned run) (held : run.members[member]? = some (.running op))
    (moved : Moves run.state op notes move) : Owned (run.follow member move notes) := by
  have moves := lineMove_of_moves moved
  have own : ∀ ticket, Registry.ticketOf (baseOf move.progress) = some ticket →
      (run.follow member move notes).AnyAt fun op => op.base.ticket? = some ticket := by
    intro ticket holds
    cases reached : move.progress with
    | running later =>
      rw [reached] at holds
      exact Crew.anyAt_follow_self held reached holds
    | ended result =>
      rw [reached] at holds
      cases holds
  intro ticket waits
  rw [Crew.state_follow] at waits
  generalize move.state.registry.makers = makers at moves waits
  generalize reached : baseOf move.progress = progress at moves own
  have kept : ticket ∈ run.state.registry.makers.waiting →
      (op.base.ticket? = some ticket → Registry.ticketOf progress = some ticket) →
        (run.follow member move notes).AnyAt fun op => op.base.ticket? = some ticket := by
    intro waits same
    obtain ⟨owner, op', held', holds⟩ := owned ticket waits
    by_cases its : owner = member
    · subst its
      obtain rfl := Progress.running.inj (Option.some.inj (held.symm.trans held'))
      exact own ticket (same holds)
    · exact ⟨owner, op', Crew.member_follow_of_ne held its held', holds⟩
  cases moves with
  | stays same => exact kept waits same.trans
  | joins before after' =>
    rcases (Line.mem_waiting_join ..).1 waits with old | rfl
    · refine kept old fun holds => ?_
      rw [before] at holds
      cases holds
    · exact own _ after'
  | leaves before =>
    obtain ⟨old, apart⟩ := (Line.mem_waiting_leave ..).1 waits
    refine kept old fun holds => ?_
    exact absurd (Option.some.inj (holds.symm.trans before)) apart

theorem owned_act (owned : Owned run) (event : Event) : Owned (act run event) := by
  refine @act_induction Owned run event owned ?launches ?moves ?drifts
  case launches => exact fun _ _ _ owned ticket waits => Crew.anyAt_enter _ (owned ticket waits)
  case moves => exact fun _ _ _ _ _ held moved => owned_follow owned held moved
  case drifts =>
    intro number state _ drifts ticket waits
    rw [Crew.state_drift, (registry_of_drifts drifts).1.makers] at waits
    exact owned ticket waits

theorem owned_onward (owned : Owned run) (events : List Event) : Owned (onward run events) :=
  @onward_induction Owned (fun _ event owned => owned_act owned event) run owned events

theorem owned_run (receiveTimeout : Nat) (events : List Event) :
    Owned (Fleet.run receiveTimeout events) := by
  refine owned_onward ?_ events
  intro ticket waits
  cases waits

/-! ## Having the turn -/

/-- How many moves an operation that has a ticket makes from its turn on. -/
def Op.toFind : Op → Nat
  | plain (.waiting _ _) => 6
  | plain (.findAgain _ _) => 5
  | plain (.creating _ _) => 4
  | attaching _ _ _ => 3
  | mapping _ _ _ => 2
  | _ => 1

/-- A part of a run in which only one operation moves, and the provider does not fail. -/
structure Alone (run later : Run) (member : Nat) : Prop where
  others : ∀ other, other ≠ member → later.members[other]? = run.members[other]?
  provided : ∀ other fault, .provided (.error fault) ∈ later.story other →
    .provided (.error fault) ∈ run.story other

theorem Alone.trans {middle : Run} (early : Alone run middle member)
    (late : Alone middle later member) : Alone run later member where
  others := fun other apart => (late.others other apart).trans (early.others other apart)
  provided := fun other fault told => early.provided other fault (late.provided other fault told)

theorem alone_follow (held : run.members[member]? = some (.running op))
    (quiet : ∀ fault, .provided (.error fault) ∉ notes) :
    Alone run (run.follow member move notes) member where
  others := by
    intro other apart
    rw [Crew.members_follow held, if_neg apart]
  provided := by
    intro other fault told
    by_cases same : member = other
    · subst same
      rw [Crew.story_follow_self] at told
      exact (List.mem_append.1 told).resolve_right (quiet fault)
    · rwa [Crew.story_follow_of_ne same] at told

theorem act_of_onStep (held : run.members[member]? = some (.running op))
    (allowed : run.state.onStep "" op = some (move, notes)) :
    act run (.steps member "") = run.follow member move notes := by
  simp [act, Crew.advance, held, allowed]

/-- The provider answers the operation that waits for it with a client. -/
theorem act_provides (held : run.members[member]? = some (.running (.plain (.creating identity ticket)))) :
    act run (.provides member (.ok ({}, {}))) = run.follow member
      (.go (run.state.add identity {} {})
        (.attaching identity ticket run.state.registry.sessions.length))
      [.provided (.ok run.state.registry.sessions.length)] := by
  simp [act, Crew.advance, held, onProvision]

/-- Where the turn takes an operation: on to the next position, or out of the line. -/
def Advances (makers : Line) (op : Op) (ticket : Nat) (move : Move Fleet Op Result) : Prop :=
  (∃ later, move.progress = .running later ∧ later.base.ticket? = some ticket ∧
      later.toFind < op.toFind ∧ move.state.registry.makers = makers) ∨
    ∃ answer, move.progress = .ended (.found answer) ∧
      move.state.registry.makers = makers.leave ticket

/-- The operation whose turn it is can move on. -/
theorem exists_advances (held : run.members[member]? = some (.running op))
    (holds : op.base.ticket? = some ticket)
    (first : run.state.registry.makers.isFirst ticket = true) :
    ∃ event move notes, act run event = run.follow member move notes ∧
      (∀ fault, .provided (.error fault) ∉ notes) ∧
        Advances run.state.registry.makers op ticket move := by
  have silent : ∀ fault, Note.provided (.error fault) ∉ [] := fun _ => List.not_mem_nil
  cases op with
  | plain op =>
    cases op with
    | waiting identity other =>
      obtain rfl := Option.some.inj holds
      have allowed : run.state.onStep "" (.plain (.waiting identity other)) =
          some (.go run.state (.plain (.findAgain identity other)), []) := by
        simp [onStep, Registry.canStep, Registry.Op.request?, Registry.step, first, ofRegistryMove]
      exact ⟨_, _, _, act_of_onStep held allowed, silent,
        .inl ⟨_, rfl, rfl, Nat.lt_succ_self _, rfl⟩⟩
    | findAgain identity other =>
      obtain rfl := Option.some.inj holds
      have allowed : run.state.onStep "" (.plain (.findAgain identity other)) =
          some (run.state.ofRegistryMove (run.state.registry.step (.findAgain identity other)), []) := rfl
      refine ⟨_, _, _, act_of_onStep held allowed, silent, .inl ?_⟩
      simp only [Registry.step]
      split
      case h_1 => exact ⟨_, rfl, rfl, by simp [Op.toFind], rfl⟩
      case h_2 => exact ⟨_, rfl, rfl, Nat.lt_succ_self _, rfl⟩
    | creating identity other =>
      obtain rfl := Option.some.inj holds
      exact ⟨_, _, _, act_provides held, by simp, .inl ⟨_, rfl, rfl, Nat.lt_succ_self _, rfl⟩⟩
    | leave other answer =>
      obtain rfl := Option.some.inj holds
      exact ⟨_, _, _, act_of_onStep held rfl, silent, .inr ⟨answer, rfl, rfl⟩⟩
    | find _ | join _ | close _ | onSession _ _ _ | evict _ => cases holds
  | attaching identity other made | mapping identity other made =>
    obtain rfl := Option.some.inj holds
    exact ⟨_, _, _, act_of_onStep held rfl, silent, .inl ⟨_, rfl, rfl, Nat.lt_succ_self _, rfl⟩⟩
  | calling purpose other inner call => cases holds

/-- The operation whose turn it is can be driven to the end, and leaves the line. -/
theorem exists_leave (held : run.members[member]? = some (.running op))
    (holds : op.base.ticket? = some ticket)
    (first : run.state.registry.makers.isFirst ticket = true) :
    ∃ events answer, (onward run events).members[member]? = some (.ended (.found answer)) ∧
      (onward run events).state.registry.makers = run.state.registry.makers.leave ticket ∧
        Alone run (onward run events) member := by
  -- The number of moves from the turn on is what the induction is on.
  induction bound : op.toFind using Nat.strongRecOn generalizing op run with
  | ind toFind ih =>
    obtain ⟨event, move, notes, led, quiet, advances⟩ := exists_advances held holds first
    have alone : Alone run (act run event) member := led ▸ alone_follow held quiet
    have now : (act run event).members[member]? = some move.progress := by
      rw [led]
      exact Crew.member_follow_self held
    have makers : (act run event).state = move.state := by rw [led, Crew.state_follow]
    rcases advances with ⟨later, comes, holds', fewer, same⟩ | ⟨answer, ended, left⟩
    · rw [comes] at now
      have first' : (act run event).state.registry.makers.isFirst ticket = true := by
        rw [makers, same, first]
      obtain ⟨events, answer, ended, left, more⟩ :=
        ih later.toFind (bound ▸ fewer) now holds' first' rfl
      refine ⟨event :: events, answer, ended, ?_, alone.trans more⟩
      rw [makers, same] at left
      exact left
    · rw [ended] at now
      exact ⟨[event], answer, now, by rw [← left, ← makers]; rfl, alone⟩

/-! ## Waiting for the turn -/

/-- The operation that has a ticket can be driven to the end, once those before it were. -/
theorem exists_found_of_ticket (sound : Sound run) (owned : Owned run)
    (held : run.members[member]? = some (.running op)) (holds : op.base.ticket? = some ticket) :
    ∃ events answer, (onward run events).members[member]? = some (.ended (.found answer)) ∧
      ∀ fault, .provided (.error fault) ∈ (onward run events).story member →
        .provided (.error fault) ∈ run.story member := by
  -- The line gets shorter with everybody who leaves it.
  induction length : run.state.registry.makers.waiting.length using Nat.strongRecOn generalizing run with
  | ind bound ih =>
    have waits : ticket ∈ run.state.registry.makers.waiting :=
      sound.line.held member _ ticket (lineOf_member held) holds
    obtain ⟨head, rest, line⟩ := List.exists_cons_of_ne_nil (List.ne_nil_of_mem waits)
    have first : run.state.registry.makers.isFirst head = true := by simp [Line.isFirst, line]
    by_cases same : head = ticket
    · subst same
      obtain ⟨events, answer, ended, _, alone⟩ := exists_leave held holds first
      exact ⟨events, answer, ended, alone.provided member⟩
    · have ahead : head ∈ run.state.registry.makers.waiting := by simp [line]
      obtain ⟨owner, op', held', holds'⟩ := owned head ahead
      have apart : member ≠ owner := by
        rintro rfl
        obtain rfl := Progress.running.inj (Option.some.inj (held.symm.trans held'))
        exact same (Option.some.inj (holds'.symm.trans holds))
      obtain ⟨events, _, _, left, alone⟩ := exists_leave held' holds' first
      have shorter : (onward run events).state.registry.makers.waiting.length < bound := by
        rw [left, ← length]
        exact Line.length_leave_lt ahead
      obtain ⟨more, answer, ended, quiet⟩ := ih _ shorter (sound_onward sound events)
        (owned_onward owned events) ((alone.others member apart).trans held) rfl
      refine ⟨events ++ more, answer, ?_, ?_⟩
      · rw [onward_append]
        exact ended
      · intro fault told
        rw [onward_append] at told
        exact alone.provided member fault (quiet fault told)

theorem exists_found_of_join (sound : Sound run) (owned : Owned run)
    (held : run.members[member]? = some (.running (.plain (.join identity)))) :
    ∃ events answer, (onward run events).members[member]? = some (.ended (.found answer)) ∧
      ∀ fault, .provided (.error fault) ∈ (onward run events).story member →
        .provided (.error fault) ∈ run.story member := by
  have led := act_of_onStep held rfl
  have now : (act run (.steps member "")).members[member]? =
      some (.running (.plain (.waiting identity run.state.registry.makers.next))) := by
    rw [led]
    exact Crew.member_follow_self held
  obtain ⟨events, answer, ended, quiet⟩ :=
    exists_found_of_ticket (sound_act sound _) (owned_act owned _) now rfl
  refine ⟨.steps member "" :: events, answer, ended, fun fault told => ?_⟩
  have before := quiet fault told
  rw [led] at before
  exact (alone_follow held fun _ => List.not_mem_nil).provided member fault before

/-- Whoever was begun to find a session in the place of a closed one can be driven to the end. -/
theorem exists_found (sound : Sound run) (owned : Owned run)
    (renewing : Renewing run member number identity) :
    ∃ events answer, (onward run events).members[member]? = some (.ended (.found answer)) ∧
      ∀ fault, .provided (.error fault) ∈ (onward run events).story member →
        .provided (.error fault) ∈ run.story member := by
  obtain ⟨progress, held, renews⟩ := renewing
  cases progress with
  | ended result =>
    cases result with
    | found answer => exact ⟨[], answer, held, fun _ => id⟩
    | closed _ | session _ | evicted => exact renews.elim
  | running op =>
    cases op with
    | plain op =>
      cases op with
      | find other =>
        obtain rfl : other = identity := renews
        have led := act_of_onStep held rfl
        have now : (act run (.steps member "")).members[member]? =
            some (run.state.ofRegistryMove (run.state.registry.step (.find other))).progress := by
          rw [led]
          exact Crew.member_follow_self held
        have alone : Alone run (act run (.steps member "")) member :=
          led ▸ alone_follow held fun _ => List.not_mem_nil
        simp only [Registry.step] at now
        cases found : run.state.registry.get? other with
        | some number' =>
          rw [found] at now
          exact ⟨[.steps member ""], .ok number', now, alone.provided member⟩
        | none =>
          rw [found] at now
          obtain ⟨events, answer, ended, quiet⟩ :=
            exists_found_of_join (sound_act sound _) (owned_act owned _) now
          exact ⟨.steps member "" :: events, answer, ended, fun fault told =>
            alone.provided member fault (quiet fault told)⟩
      | join other => exact exists_found_of_join sound owned held
      | waiting _ _ | findAgain _ _ | creating _ _ | leave _ _ =>
        exact exists_found_of_ticket sound owned held rfl
      | close _ | onSession _ _ _ | evict _ => exact renews.elim
    | attaching _ _ _ | mapping _ _ _ => exact exists_found_of_ticket sound owned held rfl
    | calling _ _ _ _ => exact renews.elim

/-- What asking for a session of an identity comes to in the place of a closed one. -/
structure Replaces (run : Run) (number : Nat) (identity : Identity) : Prop where
  /-- Nothing is found but a session that was made later, unless the provider gave no client. -/
  renewing : ∀ events, Renewing (onward (act run (.finds identity)) events) run.members.length number
    identity
  /-- Where the provider has not failed, such a session is found in the end. -/
  returns : ∀ events, (∀ fault, .provided (.error fault) ∉
      (onward (act run (.finds identity)) events).story run.members.length) →
    ∃ more other, (onward (act run (.finds identity)) (events ++ more)).members[run.members.length]? =
        some (.ended (.found (.ok other))) ∧ number < other ∧
      Belongs (onward (act run (.finds identity)) (events ++ more)).state other identity

theorem replaces_of_closed (sound : Sound run) (owned : Owned run) (closed : Closed run.state number)
    (belongs : Belongs run.state number identity) : Replaces run number identity where
  renewing := renewing_onward sound closed belongs
  returns := by
    intro events provided
    have renewing := renewing_onward sound closed belongs
    have asked := sound_onward (sound_act sound (.finds identity)) events
    have asked' := owned_onward (owned_act owned (.finds identity)) events
    obtain ⟨more, answer, ended, quiet⟩ := exists_found asked asked' (renewing events)
    obtain ⟨progress, held, renews⟩ := renewing (events ++ more)
    rw [← onward_append] at ended quiet
    obtain rfl := Option.some.inj (held.symm.trans ended)
    cases answer with
    | ok other => exact ⟨more, other, ended, renews⟩
    | error fault => exact absurd (quiet fault renews) (provided fault)

end Fleet

end DeviceGateway
