/-
# The stories of twin requests

What a twin request has done so far says at which position it is: it is registered, then published unless
that fails, and then it may take an answer.  A move of a call carries its story on in this order, and a
call that is no twin request has no part in it.
-/

import DeviceGateway.Proofs.Uplink.Run

namespace DeviceGateway

namespace Uplink

/-! ## What is noted of twin requests -/

namespace Note

/-- Whether a note is about what a twin request does. -/
def isTwin : Note → Bool
  | registered _ | published _ | took _ => true
  | _ => false

/-- Whether a note says that an answer was taken. -/
def isTaking : Note → Bool
  | took _ => true
  | _ => false

end Note

/-- What a twin request has done, in a story. -/
def twinNotes (story : List Note) : List Note := story.filter Note.isTwin

/-- What the story of a call says at each of its positions. -/
def Suits (uplink : Uplink) (call : ClientCall) (story : List Note) :
    Progress Op ClientAnswer → Prop
  | .running (.begin first) => first = call ∧ story = [.begun call]
  | .running (.publishing request requestId) | .running (.abandoning request requestId _) =>
    twinRequest? call = some request ∧ twinNotes story = [.registered requestId]
  | .running (.awaiting request requestId) =>
    twinRequest? call = some request ∧
      twinNotes story = [.registered requestId, .published (request.topic requestId)]
  | .running _ => twinRequest? call = none ∧ twinNotes story = []
  | .ended answer =>
    twinRequest? call = none ∧ twinNotes story = [] ∨
      ∃ request requestId, twinRequest? call = some request ∧
        ((∃ fault, answer = request.refusal fault) ∧
            twinNotes story <+: [.registered requestId, .published (request.topic requestId)] ∨
          ∃ reply, answer = uplink.conclude reply request ∧
            twinNotes story =
              [.registered requestId, .published (request.topic requestId), .took reply])

/-- The story of a call fits its position. -/
def Fits (uplink : Uplink) (story : List Note) (progress : Progress Op ClientAnswer) : Prop :=
  ∃ call, (∀ other, .begun other ∈ story ↔ other = call) ∧ Suits uplink call story progress

@[simp]
theorem twinNotes_append (first second : List Note) :
    twinNotes (first ++ second) = twinNotes first ++ twinNotes second :=
  List.filter_append ..

theorem twinNotes_extend {story notes before after : List Note} (first : twinNotes story = before)
    (whole : before ++ twinNotes notes = after) : twinNotes (story ++ notes) = after := by
  rw [twinNotes_append, first]
  exact whole

theorem mem_twinNotes {story : List Note} {note : Note} (twin : note.isTwin = true) :
    note ∈ twinNotes story ↔ note ∈ story := by
  simp [twinNotes, twin]

/-- The fault of an answer names the identity of the client and nothing else of it. -/
theorem conclude_congr {before after : Uplink} (same : after.identity = before.identity)
    (reply : TwinReply) (request : TwinRequest) :
    after.conclude reply request = before.conclude reply request := by
  have faults : after.replyFault reply = before.replyFault reply := by
    simp only [replyFault, same]
  simp only [conclude, faults]

theorem Fits.congr {before after : Uplink} {story : List Note} {progress : Progress Op ClientAnswer}
    (same : after.identity = before.identity) (fits : Fits before story progress) :
    Fits after story progress := by
  obtain ⟨call, begun, suits⟩ := fits
  refine ⟨call, begun, ?_⟩
  cases progress with
  | running op => cases op <;> exact suits
  | ended answer =>
    simp only [Suits, conclude_congr same]
    exact suits

/-- The identifier under which a call waits is in its story. -/
theorem Fits.registered {uplink : Uplink} {story : List Note} {op : Op} {requestId : String}
    (fits : Fits uplink story (.running op)) (holds : op.requestId? = some requestId) :
    .registered requestId ∈ story := by
  obtain ⟨call, _, suits⟩ := fits
  rw [← mem_twinNotes rfl]
  cases op with
  | publishing request other | abandoning request other fault | awaiting request other =>
    obtain rfl := Option.some.inj holds
    rw [suits.2]
    exact List.mem_cons_self
  | _ => cases holds

/-! ## What a move keeps -/

variable {uplink : Uplink} {op : Op} {told story : List Note} {move : Move Uplink Op ClientAnswer}

theorem DeskMove.identity (moved : DeskMove uplink op told move) :
    move.state.identity = uplink.identity := by
  cases moved with
  | register asks => rfl
  | publish opened same | fail fault same => exact same.identity
  | close =>
    simp only [Uplink.close, Move.state_done]
    split <;> rfl
  | aside before old same => exact same.identity
  | abandon | take arrived | refuse missing gone | timeUp missing waits => rfl

theorem twinNotes_endOf (move : Move Uplink Op ClientAnswer) : twinNotes (endOf move) = [] := by
  cases move <;> rfl

/-- A call that is no twin request stays out of its notes. -/
theorem suits_aside {call : ClientCall} {progress : Progress Op ClientAnswer}
    (other : twinRequest? call = none) (plain : twinNotes story = [])
    (after : requestIdOf progress = none) (begun : ∀ call, progress ≠ .running (.begin call)) :
    Suits uplink call story progress := by
  cases progress with
  | ended answer => exact .inl ⟨other, plain⟩
  | running op =>
    cases op with
    | begin first => exact absurd rfl (begun first)
    | publishing request requestId | abandoning request requestId fault
    | awaiting request requestId => cases after
    | sending messages | inLine ticket timeout | receiving ticket timeout => exact ⟨other, plain⟩

theorem suits_of_deskMove {call : ClientCall} (moved : DeskMove uplink op told move)
    (suits : Suits uplink call story (.running op)) :
    Suits move.state call (story ++ (told ++ endOf move)) move.progress := by
  have ending := twinNotes_endOf move
  cases moved with
  | register asks =>
    obtain ⟨rfl, rfl⟩ := suits
    exact ⟨asks, rfl⟩
  | publish opened same => exact ⟨suits.1, twinNotes_extend suits.2 rfl⟩
  | fail fault same => exact ⟨suits.1, twinNotes_extend suits.2 rfl⟩
  | @abandon request requestId fault =>
    refine .inr ⟨request, requestId, suits.1, .inl ⟨⟨fault, rfl⟩, ?_⟩⟩
    rw [twinNotes_extend suits.2 rfl]
    exact List.prefix_append [_] [_]
  | take arrived => exact .inr ⟨_, _, suits.1, .inr ⟨_, rfl, twinNotes_extend suits.2 rfl⟩⟩
  | @refuse request requestId missing gone | @timeUp request requestId fault missing waits =>
    refine .inr ⟨request, requestId, suits.1, .inl ⟨⟨_, rfl⟩, ?_⟩⟩
    rw [twinNotes_extend suits.2 rfl]
    exact List.prefix_refl _
  | close =>
    obtain ⟨rfl, rfl⟩ := suits
    exact .inl ⟨rfl, rfl⟩
  | aside before old same after begun =>
    rw [List.nil_append]
    cases op with
    | begin first =>
      obtain ⟨rfl, rfl⟩ := suits
      apply suits_aside _ _ after begun
      · simpa [Op.isNew] using old
      · exact twinNotes_extend rfl ending
    | publishing request requestId | abandoning request requestId fault
    | awaiting request requestId => cases before
    | sending messages | inLine ticket timeout | receiving ticket timeout =>
      exact suits_aside suits.1 (twinNotes_extend suits.2 ending) after begun

theorem fits_of_deskMove (moved : DeskMove uplink op told move)
    (fits : Fits uplink story (.running op)) :
    Fits move.state (story ++ (told ++ endOf move)) move.progress := by
  obtain ⟨call, begun, suits⟩ := fits
  refine ⟨call, ?_, suits_of_deskMove moved suits⟩
  intro other
  rw [List.mem_append, begun]
  simp [moved.begun_not_mem other]

/-! ## What the stories say -/

/-- Whoever took an answer is done, and took no other. -/
theorem Fits.took {progress : Progress Op ClientAnswer} {reply : TwinReply}
    (fits : Fits uplink story progress) (taken : .took reply ∈ story) :
    ∃ request requestId, progress = .ended (uplink.conclude reply request) ∧
      twinNotes story =
        [.registered requestId, .published (request.topic requestId), .took reply] := by
  obtain ⟨call, _, suits⟩ := fits
  have taken : .took reply ∈ twinNotes story := (mem_twinNotes rfl).2 taken
  have untaken {told : List Note} (same : twinNotes story = told) (none : .took reply ∉ told) :
      False := by
    rw [same] at taken
    exact none taken
  cases progress with
  | running op =>
    cases op with
    | begin first =>
      obtain ⟨rfl, rfl⟩ := suits
      exact (untaken rfl (by simp [twinNotes])).elim
    | publishing request requestId | abandoning request requestId fault
    | awaiting request requestId => exact (untaken suits.2 (by simp)).elim
    | sending messages | inLine ticket timeout | receiving ticket timeout =>
      exact (untaken suits.2 (by simp)).elim
  | ended answer =>
    rcases suits with ⟨_, plain⟩ | ⟨request, requestId, _, ⟨_, early⟩ | ⟨other, rfl, whole⟩⟩
    · exact (untaken plain (by simp)).elim
    · have := early.subset taken
      simp at this
    · rw [whole] at taken
      obtain rfl : reply = other := by simpa using taken
      exact ⟨request, requestId, rfl, whole⟩

theorem Fits.countP_isTaking_le_one {progress : Progress Op ClientAnswer}
    (fits : Fits uplink story progress) : story.countP Note.isTaking ≤ 1 := by
  by_cases some : ∃ reply, .took reply ∈ story
  · obtain ⟨reply, taken⟩ := some
    obtain ⟨request, requestId, _, whole⟩ := fits.took taken
    have inside : story.countP Note.isTaking = (twinNotes story).countP Note.isTaking := by
      rw [twinNotes, List.countP_filter]
      apply List.countP_congr
      intro note _
      cases note <;> simp [Note.isTaking, Note.isTwin]
    rw [inside, whole]
    exact Nat.le_refl 1
  · have none : story.countP Note.isTaking = 0 := by
      rw [List.countP_eq_zero]
      intro note listed marked
      cases note with
      | took reply => exact some ⟨reply, listed⟩
      | _ => cases marked
    omega

/-- How a request ended, by what it took. -/
theorem Fits.outcome {answer : ClientAnswer} {call : ClientCall} {request : TwinRequest}
    (fits : Fits uplink story (.ended answer)) (begun : .begun call ∈ story)
    (asks : twinRequest? call = some request) :
    (∃ fault, answer = request.refusal fault) ∧ (∀ reply, .took reply ∉ story) ∨
      ∃ reply, .took reply ∈ story ∧ answer = uplink.conclude reply request := by
  obtain ⟨first, begins, suits⟩ := fits
  obtain rfl := (begins call).1 begun
  rcases suits with ⟨other, _⟩ | ⟨asked, requestId, same, ended⟩
  · rw [asks] at other
    cases other
  · obtain rfl := Option.some.inj (asks.symm.trans same)
    rcases ended with ⟨refused, early⟩ | ⟨reply, concluded, whole⟩
    · refine .inl ⟨refused, ?_⟩
      intro reply taken
      have := early.subset ((mem_twinNotes rfl).2 taken)
      simp at this
    · refine .inr ⟨reply, (mem_twinNotes rfl).1 ?_, concluded⟩
      simp [whole]

end Uplink

end DeviceGateway
