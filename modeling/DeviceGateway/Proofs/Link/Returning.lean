/-
# Sending returns what the link answers

The link is handed one transfer for each message, and what it answers to that is what sending returns.
Nothing else is returned, whatever happens to other messages meanwhile; and from wherever sending is, it
returns as soon as the link has answered what it is still to answer.
-/

import DeviceGateway.Proofs.Link.Stories

namespace DeviceGateway.Link

namespace Sender

variable {sender : Sender} {story : List Note} {progress : Progress Task Unit} {message : Message}
  {fresh : Uuid} {op : Op} {answer : Answer Unit} {run : Run} {member : Nat} {event : Event}

/-- Nothing is returned for a message without its transfer, which the link was handed. -/
theorem Fits.handed (fits : Fits sender story progress) (answered : .answered answer ∈ story) :
    ∃ message fresh, .begun message fresh ∈ story ∧
      .handed (transferOf message (deliveryId message fresh)) ∈ story := by
  cases fits with
  | begins | transferring | registering | queueing => simp [opening] at answered
  | @returned message fresh | @failed message fresh | @waiting message fresh
  | @silent message fresh | @feeding message fresh | @fed message fresh =>
    exact ⟨message, fresh, by simp [opening], by simp [closing]⟩

/-! ## Sending and the answers of the link -/

/-- Nothing but an answer of the link to a member lets an answer be seen of that member. -/
theorem answered_act (listed : (some member, .answered answer) ∈ (act run event).log) :
    (some member, .answered answer) ∈ run.log ∨ event = .answers member answer := by
  revert listed
  apply @act_induction fun after => (some member, .answered answer) ∈ after.log →
    (some member, .answered answer) ∈ run.log ∨ event = .answers member answer
  case now => exact .inl
  case begins =>
    intro message fresh listed
    exact .inl (by simpa [Crew.mem_log_enter] using listed)
  case moves =>
    intro other task move notes held moved answers listed
    refine (Crew.mem_log_follow.1 listed).imp_right ?_
    rintro ⟨same, told⟩
    obtain rfl := Option.some.inj same
    exact answers answer told
  case disposes =>
    intro number outcome delivery held pending listed
    exact .inl (by simpa [Crew.mem_log_drift] using listed)

theorem answered_onward {events : List Event}
    (listed : (some member, .answered answer) ∈ (onward run events).log) :
    (some member, .answered answer) ∈ run.log ∨ .answers member answer ∈ events := by
  induction events generalizing run with
  | nil => exact .inl listed
  | cons event rest ih =>
    rcases ih listed with now | later
    · rcases answered_act now with old | rfl
      · exact .inl old
      · exact .inr List.mem_cons_self
    · exact .inr (List.mem_cons_of_mem _ later)

theorem answers_of_answered {events : List Event}
    (listed : (some member, .answered answer) ∈ (sender.run events).log) :
    .answers member answer ∈ events :=
  (answered_onward listed).resolve_left List.not_mem_nil

/-! ## Sending returns -/

/-- Whether sending returns an answer as soon as the link gives it. -/
def Returns (run : Run) (member : Nat) (answer : Answer Unit) : Prop :=
  ∃ events, (∀ event ∈ events, event = .steps member ∨ event = .answers member answer) ∧
    (some member, .answered answer) ∈ (onward run events).log

theorem Returns.of_act (mine : event = .steps member ∨ event = .answers member answer)
    (later : Returns (act run event) member answer) : Returns run member answer := by
  obtain ⟨events, each, answered⟩ := later
  exact ⟨event :: events, List.forall_mem_cons.2 ⟨mine, each⟩, answered⟩

theorem act_steps_of_begin
    (held : run.members[member]? = some (.running (.sending (.begin message fresh)))) :
    act run (.steps member) = run.follow member
      ((run.state.step (.begin message fresh)).map .sending afterSent) [] := by
  simp [act, Crew.advance, held, onStep, Op.request?]

theorem act_answers_of_waiting (held : run.members[member]? = some (.running (.sending op)))
    (waits : op.request?.isSome = true) (answer : Answer Unit) :
    act run (.answers member answer) = run.follow member
      ((run.state.resume answer op).map .sending afterSent) (run.state.told answer op) := by
  obtain ⟨request, waits⟩ := Option.isSome_iff_exists.1 waits
  simp [act, Crew.advance, held, onAnswer, waits]

theorem returns_of_told (held : run.members[member]? = some (.running (.sending op)))
    (waits : op.request?.isSome = true) (told : .answered answer ∈ run.state.told answer op) :
    Returns run member answer := by
  refine ⟨[.answers member answer], by simp, ?_⟩
  rw [onward, List.foldl_cons, List.foldl_nil, act_answers_of_waiting held waits]
  exact Crew.mem_log_follow.2 (.inr ⟨rfl, told⟩)

theorem returns_of_registering {transfer : Transfer} {id : Uuid}
    (held : run.members[member]? = some (.running (.sending (.registering transfer id)))) :
    Returns run member answer := by
  apply Returns.of_act (.inr rfl)
  rw [act_answers_of_waiting held rfl]
  exact returns_of_told (Crew.member_follow_self held) rfl (by simp [told])

/-- From wherever it is, sending returns what the link answers. -/
theorem returns_of_sending (held : run.members[member]? = some (.running (.sending op)))
    (answer : Answer Unit) : Returns run member answer := by
  cases op with
  | begin message fresh =>
    apply Returns.of_act (.inl rfl)
    rw [act_steps_of_begin held]
    simp only [step]
    split
    case isTrue awaits => exact returns_of_registering (Crew.member_follow_self held)
    case isFalse settled =>
      exact returns_of_told (Crew.member_follow_self held) rfl (by simp [told])
  | registering transfer id => exact returns_of_registering held
  | transferring transfer | queueing transfer number =>
    exact returns_of_told held rfl (by simp [told])

end Sender

end DeviceGateway.Link
