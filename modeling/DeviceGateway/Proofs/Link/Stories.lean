/-
# The stories of deliveries

Each position of a delivery has exactly one story, so that the story of a delivery says everything about
its feedback: there is none before the link has taken the delivery and its outcome is known, and there is
no second.  What happens to other deliveries does not change what the story of one says, since deliveries
keep their identifiers and their outcomes.
-/

import DeviceGateway.Proofs.Link.Run

namespace DeviceGateway.Link

/-- The feedback that an outcome has. -/
inductive Reports : Outcome → Feedback → Prop
  | accepted : Reports .accepted .complete
  | rejected : Reports .rejected .reject
  | released : Reports .released .abandon

theorem feedback_eq_ok_iff {outcome : Outcome} {status : Feedback} :
    outcome.feedback = .ok status ↔ Reports outcome status := by
  constructor
  · intro reported
    unfold Outcome.feedback at reported
    split at reported
    case isTrue same =>
      obtain rfl := Except.ok.inj reported
      exact same ▸ .accepted
    case isFalse =>
      split at reported
      case isTrue same =>
        obtain rfl := Except.ok.inj reported
        exact same ▸ .rejected
      case isFalse =>
        split at reported
        case isTrue same =>
          obtain rfl := Except.ok.inj reported
          exact same ▸ .released
        case isFalse => cases reported
  · intro reports
    cases reports <;> rfl

namespace Sender

/-- A delivery has an identifier. -/
def Identified (sender : Sender) (number : Nat) (id : Uuid) : Prop :=
  ∃ delivery, sender.deliveries[number]? = some delivery ∧ delivery.id = id

/-- The story of a delivery that was registered. -/
def opening (message : Message) (fresh : Uuid) (number : Nat) : List Note :=
  [.begun message fresh, .registered number (deliveryId message fresh).bytes]

/-- What is seen as the link answers to the transfer of a message. -/
def closing (message : Message) (fresh : Uuid) (answer : Answer Unit) : List Note :=
  [.handed (transferOf message (deliveryId message fresh)), .answered answer]

/-- The story of a delivery at each of its positions. -/
inductive Fits (sender : Sender) : List Note → Progress Task Unit → Prop
  | begins {message : Message} {fresh : Uuid} :
      Fits sender [.begun message fresh] (.running (.sending (.begin message fresh)))
  | transferring {message : Message} {fresh : Uuid} (settled : sender.guarantee = .atMostOnce) :
      Fits sender [.begun message fresh] (.running
        (.sending (.transferring (transferOf message (deliveryId message fresh)))))
  | returned {message : Message} {fresh : Uuid} {answer : Answer Unit}
      (settled : sender.guarantee = .atMostOnce) :
      Fits sender (.begun message fresh :: closing message fresh answer) (.ended ())
  | registering {message : Message} {fresh : Uuid} (reported : sender.guarantee ≠ .atMostOnce) :
      Fits sender [.begun message fresh] (.running (.sending (.registering
        (transferOf message (deliveryId message fresh)) (deliveryId message fresh))))
  | queueing {message : Message} {fresh : Uuid} {number : Nat}
      (reported : sender.guarantee ≠ .atMostOnce)
      (identified : sender.Identified number (deliveryId message fresh)) :
      Fits sender (opening message fresh number) (.running (.sending (.queueing
        (transferOf message (deliveryId message fresh)) number)))
  | failed {message : Message} {fresh : Uuid} {number : Nat} {fault : Fault}
      (reported : sender.guarantee ≠ .atMostOnce) :
      Fits sender (opening message fresh number ++ closing message fresh (.error fault)) (.ended ())
  | waiting {message : Message} {fresh : Uuid} {number : Nat}
      (reported : sender.guarantee ≠ .atMostOnce)
      (identified : sender.Identified number (deliveryId message fresh)) :
      Fits sender (opening message fresh number ++ closing message fresh (.ok ()))
        (.running (.watching (.waiting number)))
  | silent {message : Message} {fresh : Uuid} {number : Nat} {outcome : Option Outcome}
      (reported : sender.guarantee ≠ .atMostOnce)
      (decided : sender.deliveries[number]? =
        some ⟨deliveryId message fresh, dispositionOf outcome⟩)
      (mute : ∀ known ∈ outcome, ∀ status, ¬ Reports known status) :
      Fits sender (opening message fresh number ++ closing message fresh (.ok ())) (.ended ())
  | feeding {message : Message} {fresh : Uuid} {number : Nat} {outcome : Outcome}
      {status : Feedback} (reported : sender.guarantee ≠ .atMostOnce)
      (decided : sender.deliveries[number]? = some ⟨deliveryId message fresh, .reported outcome⟩)
      (reports : Reports outcome status) :
      Fits sender (opening message fresh number ++ closing message fresh (.ok ()) ++
          [.feedback (deliveryId message fresh).hyphenated status])
        (.running (.watching (.feeding (deliveryId message fresh) status)))
  | fed {message : Message} {fresh : Uuid} {number : Nat} {outcome : Outcome} {status : Feedback}
      (reported : sender.guarantee ≠ .atMostOnce)
      (decided : sender.deliveries[number]? = some ⟨deliveryId message fresh, .reported outcome⟩)
      (reports : Reports outcome status) :
      Fits sender (opening message fresh number ++ closing message fresh (.ok ()) ++
        [.feedback (deliveryId message fresh).hyphenated status]) (.ended ())

variable {sender after : Sender} {story notes : List Note} {task : Task}
  {progress : Progress Task Unit} {move : Move Sender Task Unit}

theorem Identified.grows {number : Nat} {id : Uuid} (identified : sender.Identified number id)
    (grows : Grows sender after) : after.Identified number id := by
  obtain ⟨delivery, held, rfl⟩ := identified
  exact grows.identified number delivery held

/-- What happens to other deliveries does not matter to the story of one. -/
theorem Fits.grows (fits : Fits sender story progress) (grows : Grows sender after) :
    Fits after story progress := by
  have same := grows.guarantee
  cases fits with
  | begins => exact .begins
  | transferring settled => exact .transferring (same.trans settled)
  | returned settled => exact .returned (same.trans settled)
  | registering reported => exact .registering (same ▸ reported)
  | queueing reported identified => exact .queueing (same ▸ reported) (identified.grows grows)
  | failed reported => exact .failed (same ▸ reported)
  | waiting reported identified => exact .waiting (same ▸ reported) (identified.grows grows)
  | @silent message fresh number outcome reported decided mute =>
    have known : dispositionOf outcome ≠ .pending := by cases outcome <;> exact Disposition.noConfusion
    exact .silent (same ▸ reported) (grows.decided number _ decided known) mute
  | feeding reported decided reports =>
    exact .feeding (same ▸ reported) (grows.decided _ _ decided Disposition.noConfusion) reports
  | fed reported decided reports =>
    exact .fed (same ▸ reported) (grows.decided _ _ decided Disposition.noConfusion) reports

/-! ## Moves -/

theorem state_map {Op Op' Result Result' : Type} (move : Move Sender Op Result) (position : Op → Op')
    (conclude : Result → Op' ⊕ Result') : (move.map position conclude).state = move.state := by
  cases move with
  | go state op => rfl
  | done state result =>
    simp only [Move.map]
    split <;> rfl

theorem state_watchStep (sender : Sender) (number : Nat) :
    (sender.watchStep (.waiting number)).state = sender := by
  simp only [watchStep]
  split
  case h_1 =>
    split
    case h_1 | h_2 => rfl
    case h_3 => split <;> rfl
  case h_2 => rfl

/-- A move registers a delivery or leaves all of them alone. -/
theorem state_of_moves (moved : Moves sender task move notes) :
    move.state = sender ∧ (∀ number tag, .registered number tag ∉ notes) ∨
      ∃ id tag, move.state = { sender with deliveries := sender.deliveries ++ [⟨id, .pending⟩] } ∧
        notes = [.registered sender.deliveries.length tag] := by
  cases moved with
  | @step op free =>
    rw [state_map]
    cases op with
    | begin message fresh =>
      left
      simp only [step]
      split <;> exact ⟨rfl, by simp⟩
    | transferring transfer | registering transfer id | queueing transfer number => cases free
  | @answer op answer waits =>
    rw [state_map]
    cases op with
    | begin message fresh => cases waits
    | transferring transfer => exact .inl ⟨rfl, by simp [told]⟩
    | registering transfer id => exact .inr ⟨id, transfer.tag, rfl, rfl⟩
    | queueing transfer number => cases answer <;> exact .inl ⟨rfl, by simp [told]⟩
  | @watch number decided =>
    rw [state_map, state_watchStep]
    refine .inl ⟨rfl, ?_⟩
    intro other tag listed
    unfold asked at listed
    split at listed
    case h_1 => simp at listed
    case h_2 => cases listed
  | fed answer => exact .inl ⟨rfl, fun _ _ => List.not_mem_nil⟩

theorem grows_of_moves (moved : Moves sender task move notes) : Grows sender move.state := by
  rcases state_of_moves moved with ⟨same, _⟩ | ⟨id, tag, registered, _⟩
  · rw [same]
    exact .refl sender
  · rw [registered]
    exact grows_register sender id

theorem awaitsDisposition_iff : sender.settlement.awaitsDisposition = true ↔
    sender.guarantee ≠ .atMostOnce :=
  Settlement.awaitsDisposition_ofGuarantee sender.guarantee

/-- A delivery begins with the way that the guarantee of the link asks for. -/
theorem fits_begin (message : Message) (fresh : Uuid) :
    Fits sender [.begun message fresh]
      ((sender.step (.begin message fresh)).map Task.sending afterSent).progress := by
  simp only [step]
  split
  case isTrue awaits => exact .registering (awaitsDisposition_iff.1 awaits)
  case isFalse settled =>
    rw [awaitsDisposition_iff, not_not] at settled
    exact .transferring settled

/-- What the story of a delivery that is watched says once its outcome is known. -/
theorem fits_watch {message : Message} {fresh : Uuid} {number : Nat}
    (reported : sender.guarantee ≠ .atMostOnce)
    (identified : sender.Identified number (deliveryId message fresh))
    (decided : sender.isDecided number = true) :
    Fits sender (opening message fresh number ++ closing message fresh (.ok ()) ++
        asked (sender.watchStep (.waiting number)))
      ((sender.watchStep (.waiting number)).map Task.watching Sum.inr).progress := by
  obtain ⟨⟨id, disposition⟩, held, rfl⟩ := identified
  cases disposition with
  | pending => simp [isDecided, held] at decided
  | dropped =>
    simp only [watchStep, held]
    rw [asked, List.append_nil]
    exact @Fits.silent sender message fresh number none reported held nofun
  | reported outcome =>
    simp only [watchStep, held]
    cases known : outcome.feedback with
    | ok status => exact .feeding reported held (feedback_eq_ok_iff.1 known)
    | error fault =>
      rw [asked, List.append_nil]
      refine @Fits.silent sender message fresh number (some outcome) reported held ?_
      intro other same status reports
      obtain rfl := Option.mem_some.1 same
      rw [feedback_eq_ok_iff.2 reports] at known
      cases known

theorem fits_of_moves (moved : Moves sender task move notes)
    (fits : Fits sender story (.running task)) :
    Fits move.state (story ++ notes) move.progress := by
  cases moved with
  | step free =>
    cases fits with
    | @begins message fresh =>
      have same : (sender.step (.begin message fresh)).state = sender := by
        simp only [step]
        split <;> rfl
      rw [state_map, same, List.append_nil]
      exact fits_begin message fresh
    | transferring settled | registering reported | queueing reported identified => cases free
  | answer answer waits =>
    cases fits with
    | begins => cases waits
    | transferring settled => exact .returned settled
    | @registering message fresh reported =>
      refine .queueing reported ⟨⟨deliveryId message fresh, .pending⟩, ?_, rfl⟩
      exact List.getElem?_concat_length
    | queueing reported identified =>
      cases answer with
      | ok _ => exact .waiting reported identified
      | error fault => exact .failed reported
  | watch decided =>
    cases fits with
    | waiting reported identified =>
      rw [state_map, state_watchStep]
      exact fits_watch reported identified decided
  | fed answer =>
    cases fits with
    | feeding reported decided reports =>
      rw [List.append_nil]
      exact .fed reported decided reports

theorem dispositionOf_injective {outcome outcome' : Option Outcome}
    (same : dispositionOf outcome = dispositionOf outcome') : outcome = outcome' := by
  cases outcome with
  | none =>
    cases outcome' with
    | none => rfl
    | some other => cases same
  | some known =>
    cases outcome' with
    | none => cases same
    | some other => rw [Disposition.reported.inj same]

/-! ## What the stories say of feedback -/

/-- Whether a note says that the session is asked for feedback. -/
def Note.isFeedback : Note → Bool
  | feedback _ _ => true
  | _ => false

theorem Fits.countP_isFeedback_le_one (fits : Fits sender story progress) :
    story.countP Note.isFeedback ≤ 1 := by
  cases fits <;> simp [opening, closing, Note.isFeedback]

/-- Whose feedback it is, and what it was given for. -/
theorem Fits.caused {messageId : String} {status : Feedback} (fits : Fits sender story progress)
    (given : .feedback messageId status ∈ story) : sender.guarantee ≠ .atMostOnce ∧
      ∃ message fresh number outcome,
        story = opening message fresh number ++ closing message fresh (.ok ()) ++
          [.feedback messageId status] ∧
        messageId = (deliveryId message fresh).hyphenated ∧
        sender.deliveries[number]? = some ⟨deliveryId message fresh, .reported outcome⟩ ∧
        Reports outcome status := by
  cases fits with
  | @feeding message fresh number outcome _ reported decided reports
  | @fed message fresh number outcome _ reported decided reports =>
    obtain ⟨rfl, rfl⟩ : messageId = (deliveryId message fresh).hyphenated ∧ status = _ := by
      simpa [opening, closing] using given
    exact ⟨reported, message, fresh, number, outcome, rfl, rfl, decided, reports⟩
  | begins | transferring | returned | registering | queueing | failed | waiting | silent =>
    simp [opening, closing] at given

/-- A delivery that was registered is not settled at once. -/
theorem Fits.reported {number : Nat} {tag : Bytes} (fits : Fits sender story progress)
    (registered : .registered number tag ∈ story) : sender.guarantee ≠ .atMostOnce := by
  cases fits with
  | begins | transferring settled | returned settled => simp [closing] at registered
  | registering reported => simp at registered
  | queueing reported identified | failed reported | waiting reported identified
  | silent reported decided mute | feeding reported decided reports
  | fed reported decided reports => exact reported

/-- Where a delivery is that the link has taken and whose outcome has feedback. -/
theorem Fits.due {number : Nat} {tag : Bytes} {id : Uuid} {outcome : Outcome} {status : Feedback}
    (fits : Fits sender story progress) (registered : .registered number tag ∈ story)
    (accepted : .answered (.ok ()) ∈ story)
    (decided : sender.deliveries[number]? = some ⟨id, .reported outcome⟩)
    (reports : Reports outcome status) :
    progress = .running (.watching (.waiting number)) ∨
      ∃ messageId, .feedback messageId status ∈ story := by
  cases fits with
  | begins | transferring settled | returned settled => simp [closing] at registered
  | registering reported | queueing reported identified => simp [opening] at accepted
  | failed reported => simp [opening, closing] at accepted
  | waiting reported identified =>
    obtain ⟨rfl, _⟩ : number = _ ∧ tag = _ := by simpa [opening, closing] using registered
    exact .inl rfl
  | @silent message fresh other known reported decided' mute =>
    obtain ⟨rfl, _⟩ : number = other ∧ tag = _ := by simpa [opening, closing] using registered
    have same : dispositionOf (some outcome) = dispositionOf known :=
      (Delivery.mk.inj (Option.some.inj (decided.symm.trans decided'))).2
    have mentioned : outcome ∈ known := by
      rw [← dispositionOf_injective same]
      rfl
    exact absurd reports (mute outcome mentioned status)
  | @feeding message fresh other known status' reported decided' reports'
  | @fed message fresh other known status' reported decided' reports' =>
    obtain ⟨rfl, _⟩ : number = other ∧ tag = _ := by simpa [opening, closing] using registered
    have same := (Delivery.mk.inj (Option.some.inj (decided.symm.trans decided'))).2
    obtain rfl := Disposition.reported.inj same
    have status_eq : status = status' := by
      rw [← feedback_eq_ok_iff] at reports reports'
      exact Except.ok.inj (reports.symm.trans reports')
    exact .inr ⟨_, by rw [status_eq]; exact List.mem_append_right _ List.mem_cons_self⟩

end Sender

end DeviceGateway.Link
