/-
# Feedback on deliveries

The hub gets feedback on a delivery at most once, and gets it exactly when the link has taken the delivery
and its outcome has feedback.  Deliveries are numbered as they are registered, so that an outcome is that
of one delivery, whatever the order in which outcomes come.
-/

import DeviceGateway.Proofs.Link.Returning

namespace DeviceGateway.Link

namespace Sender

variable {run : Run} {member : Nat} {task : Task} {notes : List Note}
  {move : Move Sender Task Unit}

/-! ## Runs -/

/-- What the log says about deliveries is what the link knows of them. -/
structure Sound (run : Run) : Prop where
  tidy : run.Tidy
  stories : run.Keeps Fits
  given : ∀ owner number tag, (owner, .registered number tag) ∈ run.log →
    number < run.state.deliveries.length
  apart : ∀ first second number tag tag', (some first, .registered number tag) ∈ run.log →
    (some second, .registered number tag') ∈ run.log → first = second
  settled : ∀ number outcome, (none, .disposed number outcome) ∈ run.log ↔
    ∃ id, run.state.deliveries[number]? = some ⟨id, dispositionOf outcome⟩

theorem sound_new (identity : Identity) (settings : Settings.Link) :
    Sound { state := new identity settings } where
  tidy := fun _ _ => nofun
  stories := fun _ _ => nofun
  given := fun _ _ _ => nofun
  apart := fun _ _ _ _ _ => nofun
  settled := by simp [new]

theorem sound_enter (sound : Sound run) (message : Message) (fresh : Uuid) :
    Sound (run.enter (.sending (.begin message fresh)) [.begun message fresh]) where
  tidy := Crew.tidy_enter sound.tidy _
  stories := Crew.keeps_enter sound.tidy sound.stories .begins
  given := by
    intro owner number tag listed
    exact sound.given owner number tag (by simpa [Crew.mem_log_enter] using listed)
  apart := by
    intro first second number tag tag' one other
    exact sound.apart first second number tag tag' (by simpa [Crew.mem_log_enter] using one)
      (by simpa [Crew.mem_log_enter] using other)
  settled := by
    intro number outcome
    rw [Crew.state_enter, ← sound.settled]
    simp [Crew.mem_log_enter]

theorem sound_follow (sound : Sound run) (held : run.members[member]? = some (.running task))
    (moved : Moves run.state task move notes) : Sound (run.follow member move notes) := by
  have grows := grows_of_moves moved
  have fresh {number : Nat} {tag : Bytes} (told : .registered number tag ∈ notes) :
      number = run.state.deliveries.length ∧
        move.state.deliveries.length = run.state.deliveries.length + 1 := by
    rcases state_of_moves moved with ⟨_, none⟩ | ⟨id, tag, registered, same⟩
    · exact absurd told (none number _)
    · rw [same, List.mem_singleton] at told
      rw [registered]
      exact ⟨(Note.registered.inj told).1, List.length_append⟩
  constructor
  case tidy => exact Crew.tidy_follow held sound.tidy
  case stories =>
    exact Crew.keeps_follow held sound.stories (fun _ _ fits => fits.grows grows)
      (fits_of_moves moved)
  case given =>
    intro owner number tag listed
    rw [Crew.state_follow]
    rcases Crew.mem_log_follow.1 listed with old | ⟨_, told⟩
    · have within := sound.given owner number tag old
      obtain ⟨later, found, _⟩ := grows.identified number _ (List.getElem?_eq_getElem within)
      exact (List.getElem?_eq_some_iff.1 found).1
    · have := fresh told
      omega
  case apart =>
    intro first second number tag tag' one other
    rcases Crew.mem_log_follow.1 one with one | ⟨owned, told⟩ <;>
      rcases Crew.mem_log_follow.1 other with other | ⟨owned', told'⟩
    · exact sound.apart first second number tag tag' one other
    · have within := sound.given _ _ _ one
      have := fresh told'
      omega
    · have within := sound.given _ _ _ other
      have := fresh told
      omega
    · exact Option.some.inj (owned.trans owned'.symm)
  case settled =>
    intro number outcome
    have known : dispositionOf outcome ≠ .pending := by cases outcome <;> exact Disposition.noConfusion
    have same : (none, Note.disposed number outcome) ∈ (run.follow member move notes).log ↔
        (none, Note.disposed number outcome) ∈ run.log := by
      simp [Crew.mem_log_follow]
    rw [same, sound.settled, Crew.state_follow]
    constructor
    · rintro ⟨id, decided⟩
      exact ⟨id, grows.decided number _ decided known⟩
    · rintro ⟨id, decided⟩
      refine ⟨id, ?_⟩
      rcases state_of_moves moved with ⟨same, _⟩ | ⟨id', tag, registered, _⟩
      · rwa [same] at decided
      · rw [registered, List.getElem?_append] at decided
        split at decided
        case isTrue => exact decided
        case isFalse =>
          have pending := (Delivery.mk.inj (List.mem_singleton.1 (List.mem_of_getElem? decided))).2
          exact absurd pending known

theorem sound_dispose (sound : Sound run) {number : Nat} {delivery : Delivery}
    (held : run.state.deliveries[number]? = some delivery) (pending : delivery.disposition = .pending)
    (outcome : Option Outcome) :
    Sound (run.drift (run.state.dispose number (dispositionOf outcome))
      [.disposed number outcome]) := by
  have grows := grows_dispose held pending (dispositionOf outcome)
  constructor
  case tidy => exact Crew.tidy_drift sound.tidy _
  case stories => exact Crew.keeps_drift sound.stories fun _ _ fits => fits.grows grows
  case given =>
    intro owner other tag listed
    have within := sound.given owner other tag (by simpa [Crew.mem_log_drift] using listed)
    obtain ⟨later, found, _⟩ := grows.identified other _ (List.getElem?_eq_getElem within)
    exact (List.getElem?_eq_some_iff.1 found).1
  case apart =>
    intro first second other tag tag' one two
    exact sound.apart first second other tag tag' (by simpa [Crew.mem_log_drift] using one)
      (by simpa [Crew.mem_log_drift] using two)
  case settled =>
    intro other outcome'
    have listed : (none, Note.disposed other outcome') ∈ (run.drift
        (run.state.dispose number (dispositionOf outcome)) [.disposed number outcome]).log ↔
          (none, Note.disposed other outcome') ∈ run.log ∨ other = number ∧ outcome' = outcome := by
      simp [Crew.mem_log_drift]
    rw [listed, sound.settled, Crew.state_drift, getElem?_dispose held pending]
    by_cases same : other = number
    · subst same
      rw [if_pos rfl, held]
      constructor
      · rintro (⟨id, decided⟩ | ⟨_, rfl⟩)
        · -- A delivery that is pending was not decided before.
          obtain rfl := Option.some.inj decided
          cases outcome' <;> cases pending
        · exact ⟨delivery.id, rfl⟩
      · rintro ⟨id, decided⟩
        have known := (Delivery.mk.inj (Option.some.inj decided)).2
        exact .inr ⟨rfl, (dispositionOf_injective known).symm⟩
    · rw [if_neg same]
      exact or_iff_left fun ⟨now, _⟩ => same now

theorem sound_act (sound : Sound run) (event : Event) : Sound (act run event) := by
  apply act_induction sound
  case begins => exact fun message fresh => sound_enter sound message fresh
  case moves => exact fun member task move notes held moved _ => sound_follow sound held moved
  case disposes =>
    exact fun number outcome delivery held pending => sound_dispose sound held pending outcome

theorem sound_onward (sound : Sound run) (events : List Event) : Sound (onward run events) :=
  List.foldlRecOn (motive := Sound) events act sound fun _ sound event _ => sound_act sound event

theorem guarantee_act (run : Run) (event : Event) :
    (act run event).state.guarantee = run.state.guarantee := by
  apply @act_induction fun after => after.state.guarantee = run.state.guarantee
  case now => rfl
  case begins => exact fun message fresh => rfl
  case moves => exact fun member task move notes held moved _ => (grows_of_moves moved).guarantee
  case disposes =>
    exact fun number outcome delivery held pending => (grows_dispose held pending _).guarantee

theorem guarantee_onward (run : Run) (events : List Event) :
    (onward run events).state.guarantee = run.state.guarantee :=
  List.foldlRecOn (motive := fun after : Run => after.state.guarantee = run.state.guarantee) events act
    rfl fun middle same event _ => (guarantee_act middle event).trans same

theorem mem_log_act {event : Event} {entry : Option Nat × Note} (listed : entry ∈ run.log) :
    entry ∈ (act run event).log := by
  apply @act_induction fun after => entry ∈ after.log
  case now => exact listed
  case begins => exact fun message fresh => List.mem_append_left _ listed
  case moves => exact fun member task move notes held moved _ => List.mem_append_left _ listed
  case disposes =>
    exact fun number outcome delivery held pending => List.mem_append_left _ listed

/-- Whoever watches a delivery gives its feedback as soon as it goes on. -/
theorem feedback_of_waiting {number : Nat} {id : Uuid} {outcome : Outcome} {status : Feedback}
    (waits : run.members[member]? = some (.running (.watching (.waiting number))))
    (decided : run.state.deliveries[number]? = some ⟨id, .reported outcome⟩)
    (reports : Reports outcome status) :
    (some member, .feedback id.hyphenated status) ∈ (act run (.watches member)).log := by
  have known : run.state.isDecided number = true := by
    rw [isDecided, decided]
    rfl
  have asks : run.state.watchStep (.waiting number) = .go run.state (.feeding id status) := by
    simp only [watchStep, decided, feedback_eq_ok_iff.2 reports]
  simp only [act, Crew.advance, waits, onWatch, known, asks, if_true]
  exact List.mem_append_right _ List.mem_cons_self

/-! ## Attribution -/

/-- What can be said of deliveries and the feedback on them in a run of a link through a list of events. -/
structure Attributed (guarantee : DeliveryGuarantee) (events : List Event) (run : Run) : Prop where
  /-- There is feedback on a delivery at most once. -/
  once : ∀ member, (run.story member).countP Note.isFeedback ≤ 1
  /-- It names the identifier that is the tag of this delivery, after the link has taken the delivery, and
  says what the outcome of this delivery means. -/
  caused : ∀ member messageId status, (some member, .feedback messageId status) ∈ run.log →
    guarantee ≠ .atMostOnce ∧ ∃ message fresh number outcome,
      run.story member = opening message fresh number ++ closing message fresh (.ok ()) ++
        [.feedback messageId status] ∧
      messageId = (deliveryId message fresh).hyphenated ∧
      (none, .disposed number (some outcome)) ∈ run.log ∧ Reports outcome status
  /-- A delivery that is over got feedback exactly if the link had taken it and its outcome has some. -/
  exact : ∀ member, run.members[member]? = some (.ended ()) →
    ((run.story member).countP Note.isFeedback = 1 ↔
      guarantee ≠ .atMostOnce ∧ .answered (.ok ()) ∈ run.story member ∧
        ∃ number tag outcome status, .registered number tag ∈ run.story member ∧
          (none, .disposed number (some outcome)) ∈ run.log ∧ Reports outcome status)
  /-- Feedback that is due was given, or is given once the delivery goes on. -/
  due : ∀ member number tag outcome status, (some member, .registered number tag) ∈ run.log →
    (some member, .answered (.ok ())) ∈ run.log →
      (none, .disposed number (some outcome)) ∈ run.log → Reports outcome status →
        ∃ messageId, (some member, .feedback messageId status) ∈ (act run (.watches member)).log
  /-- An outcome is that of one delivery, which has no other. -/
  apart : ∀ first second number tag tag', (some first, .registered number tag) ∈ run.log →
    (some second, .registered number tag') ∈ run.log → first = second
  resolved : ∀ number outcome outcome', (none, .disposed number outcome) ∈ run.log →
    (none, .disposed number outcome') ∈ run.log → outcome = outcome'
  /-- A delivery that is settled at once is not registered. -/
  settled : guarantee = .atMostOnce → ∀ member number tag,
    (some member, .registered number tag) ∉ run.log
  /-- Sending returns nothing but what the link has answered to the transfer of the message. -/
  returned : ∀ member answer, .answered answer ∈ run.story member →
    .answers member answer ∈ events ∧ ∃ message fresh, .begun message fresh ∈ run.story member ∧
      .handed (transferOf message (deliveryId message fresh)) ∈ run.story member
  /-- Whoever is still sending returns what the link answers, as soon as it answers. -/
  returns : ∀ (member : Nat) (op : Op) (answer : Answer Unit),
    run.members[member]? = some (.running (.sending op)) → Returns run member answer

theorem Sound.caused (sound : Sound run) {messageId : String} {status : Feedback}
    (given : (some member, .feedback messageId status) ∈ run.log) :
    run.state.guarantee ≠ .atMostOnce ∧ ∃ message fresh number outcome,
      run.story member = opening message fresh number ++ closing message fresh (.ok ()) ++
        [.feedback messageId status] ∧
      messageId = (deliveryId message fresh).hyphenated ∧
      (none, .disposed number (some outcome)) ∈ run.log ∧ Reports outcome status := by
  obtain ⟨progress, _, fits⟩ := sound.stories.exists_fits sound.tidy (Crew.mem_story.2 given)
  obtain ⟨reported, message, fresh, number, outcome, whole, named, decided, reports⟩ :=
    fits.caused (Crew.mem_story.2 given)
  have listed := (sound.settled number (some outcome)).2 ⟨_, decided⟩
  exact ⟨reported, message, fresh, number, outcome, whole, named, listed, reports⟩

theorem Sound.exact (sound : Sound run) (ended : run.members[member]? = some (.ended ())) :
    (run.story member).countP Note.isFeedback = 1 ↔
      run.state.guarantee ≠ .atMostOnce ∧ .answered (.ok ()) ∈ run.story member ∧
        ∃ number tag outcome status, .registered number tag ∈ run.story member ∧
          (none, .disposed number (some outcome)) ∈ run.log ∧ Reports outcome status := by
  constructor
  · intro one
    have some : 0 < (run.story member).countP Note.isFeedback := by omega
    obtain ⟨note, given, marked⟩ := List.countP_pos_iff.1 some
    cases note with
    | feedback messageId status =>
      obtain ⟨reported, message, fresh, number, outcome, whole, _, listed, reports⟩ :=
        sound.caused (Crew.mem_story.1 given)
      refine ⟨reported, ?_, number, (deliveryId message fresh).bytes, outcome, status, ?_, listed,
        reports⟩
      · simp [whole, closing]
      · simp [whole, opening]
    | _ => cases marked
  · rintro ⟨_, accepted, number, tag, outcome, status, registered, listed, reports⟩
    obtain ⟨id, decided⟩ := (sound.settled number (some outcome)).1 listed
    have fits := sound.stories member _ ended
    rcases fits.due registered accepted decided reports with waits | ⟨messageId, given⟩
    · cases waits
    · have positive : 0 < (run.story member).countP Note.isFeedback :=
        List.countP_pos_iff.2 ⟨_, given, rfl⟩
      have := fits.countP_isFeedback_le_one
      omega

theorem Sound.due (sound : Sound run) {number : Nat} {tag : Bytes} {outcome : Outcome}
    {status : Feedback} (registered : (some member, .registered number tag) ∈ run.log)
    (accepted : (some member, .answered (.ok ())) ∈ run.log)
    (listed : (none, .disposed number (some outcome)) ∈ run.log) (reports : Reports outcome status) :
    ∃ messageId, (some member, .feedback messageId status) ∈ (act run (.watches member)).log := by
  obtain ⟨progress, held, fits⟩ := sound.stories.exists_fits sound.tidy (Crew.mem_story.2 registered)
  obtain ⟨id, decided⟩ := (sound.settled number (some outcome)).1 listed
  rcases fits.due (Crew.mem_story.2 registered) (Crew.mem_story.2 accepted) decided reports with
    rfl | ⟨messageId, given⟩
  · exact ⟨id.hyphenated, feedback_of_waiting held decided reports⟩
  · exact ⟨messageId, mem_log_act (Crew.mem_story.1 given)⟩

theorem Sound.returned (sound : Sound run) {answer : Answer Unit}
    (answered : .answered answer ∈ run.story member) :
    ∃ message fresh, .begun message fresh ∈ run.story member ∧
      .handed (transferOf message (deliveryId message fresh)) ∈ run.story member := by
  obtain ⟨progress, _, fits⟩ := sound.stories.exists_fits sound.tidy answered
  exact fits.handed answered

theorem Sound.attributed (sound : Sound run) {events : List Event}
    (answered : ∀ member answer, (some member, .answered answer) ∈ run.log →
      .answers member answer ∈ events) : Attributed run.state.guarantee events run where
  once := sound.stories.countP_story_le_one sound.tidy fun _ _ => Fits.countP_isFeedback_le_one
  caused := fun _ _ _ => sound.caused
  exact := fun _ => sound.exact
  due := fun _ _ _ _ _ => sound.due
  apart := sound.apart
  resolved := by
    intro number outcome outcome' one other
    obtain ⟨id, decided⟩ := (sound.settled number outcome).1 one
    obtain ⟨id', decided'⟩ := (sound.settled number outcome').1 other
    have same := Delivery.mk.inj (Option.some.inj (decided.symm.trans decided'))
    exact dispositionOf_injective same.2
  settled := by
    intro settled member number tag registered
    obtain ⟨progress, _, fits⟩ := sound.stories.exists_fits sound.tidy (Crew.mem_story.2 registered)
    exact fits.reported (Crew.mem_story.2 registered) settled
  returned := fun member answer listed =>
    ⟨answered member answer (Crew.mem_story.1 listed), sound.returned listed⟩
  returns := fun _ _ answer held => returns_of_sending held answer

/-- The same event, with a session that takes the feedback. -/
def Event.obliging : Event → Event
  | feeds member _ => feeds member (.ok ())
  | event => event

theorem act_obliging (run : Run) (event : Event) : act run event.obliging = act run event := by
  cases event with
  | feeds member answer =>
    have same : onFed (.ok ()) run.state = onFed answer run.state := by
      funext task
      rcases task with op | ⟨number⟩ | ⟨id, status⟩ <;> rfl
    exact congrArg (run.advance member) same
  | _ => rfl

theorem onward_obliging (run : Run) (events : List Event) :
    onward run (events.map Event.obliging) = onward run events := by
  induction events generalizing run with
  | nil => rfl
  | cons event rest ih =>
    show onward (act run event.obliging) (rest.map Event.obliging) = onward (act run event) rest
    rw [act_obliging, ih]

/-- Feedback is given exactly once where it is due, on the delivery it belongs to, in every run of a link;
sending returns what the link answers; and what the session answers to feedback changes nothing in any
run. -/
theorem attributed_run (identity : Identity) (settings : Settings.Link) (events : List Event) :
    Attributed settings.guarantee events ((new identity settings).run events) ∧
      (new identity settings).run (events.map Event.obliging) =
        (new identity settings).run events := by
  have sound := sound_onward (sound_new identity settings) events
  have attributed := sound.attributed fun _ _ => answers_of_answered
  rw [guarantee_onward] at attributed
  exact ⟨attributed, onward_obliging _ events⟩

/-- An outcome that comes before the link has answered is not lost. -/
example : ((new ⟨"sensor", none, by decide, nofun⟩ {}).run [.sends {} ⟨List.replicate 16 0, rfl⟩,
      .steps 0, .answers 0 (.ok ()), .disposes 0 (some .released), .answers 0 (.ok ()), .watches 0,
      .feeds 0 (.error .notConnected)]).story 0 =
    opening {} ⟨List.replicate 16 0, rfl⟩ 0 ++ closing {} ⟨List.replicate 16 0, rfl⟩ (.ok ()) ++
      [.feedback "00000000-0000-0000-0000-000000000000" .abandon] := by
  rfl

end Sender

end DeviceGateway.Link
