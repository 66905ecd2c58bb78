/-
# The desk of the twin requests

Whatever lies on the desk belongs to a request that is under way: its identifier waits there or the
answer to it does.  An identifier belongs to one request only, since the numbers of requests differ, and
the answer that lies there has arrived after the request was registered.

The order in which things happened is read off the log: an answer that lies on the desk has an entry of
its arrival, behind the entry of the request it belongs to.
-/

import DeviceGateway.Proofs.Uplink.Numbers
import DeviceGateway.Proofs.Uplink.Stories

namespace DeviceGateway

namespace Uplink

variable {uplink : Uplink} {op : Op} {told : List Note} {move : Move Uplink Op ClientAnswer}

/-- What arrived at a place of the log is the answer to the request that a call had registered before. -/
def Answered (log : List (Option Nat × Note)) (place member : Nat) (requestId : String)
    (reply : TwinReply) : Prop :=
  ∃ topic payload response, log[place]? = some (none, .arrived topic payload) ∧
    Topic.Hub.parseTwinResponse? topic = some response ∧ response.requestId = requestId ∧
      reply = ⟨response.status, response.version, payload⟩ ∧
        (some member, .registered requestId) ∈ log.take place

theorem Answered.append {log more : List (Option Nat × Note)} {place member : Nat}
    {requestId : String} {reply : TwinReply} (answered : Answered log place member requestId reply) :
    Answered (log ++ more) place member requestId reply := by
  obtain ⟨topic, payload, response, entry, parsed, named, said, registered⟩ := answered
  have within : place < log.length := (List.getElem?_eq_some_iff.1 entry).1
  refine ⟨topic, payload, response, ?_, parsed, named, said, ?_⟩
  · rw [List.getElem?_append_left within]
    exact entry
  · rw [List.take_append_of_le_length (Nat.le_of_lt within)]
    exact registered

/-! ## What a move does -/

/-- What lies on the desk under an identifier. -/
def OnDesk (uplink : Uplink) (requestId : String) : Prop :=
  requestId ∈ uplink.pending ∨ ∃ reply, (requestId, reply) ∈ uplink.replies

/-- A move puts nothing onto the desk but the identifier of a new request. -/
theorem DeskMove.less (moved : DeskMove uplink op told move) :
    (∀ requestId ∈ move.state.pending, requestId ∈ uplink.pending ∨
      op.isNew = true ∧ requestId = Numeral.ofNat uplink.nextRequest ∧
        requestIdOf move.progress = some requestId) ∧
    move.state.replies ⊆ uplink.replies := by
  have same {state : Uplink} (same : SameDesk uplink state) :
      (∀ requestId ∈ state.pending, requestId ∈ uplink.pending ∨
        op.isNew = true ∧ requestId = Numeral.ofNat uplink.nextRequest ∧
          requestIdOf move.progress = some requestId) ∧ state.replies ⊆ uplink.replies := by
    rw [same.pending, same.replies]
    exact ⟨fun _ => .inl, List.Subset.refl _⟩
  cases moved with
  | @register call request asks =>
    refine ⟨?_, List.Subset.refl _⟩
    intro requestId listed
    rcases List.mem_append.1 listed with waits | new
    · exact .inl waits
    · obtain rfl := List.mem_singleton.1 new
      exact .inr ⟨by rw [Op.isNew, asks]; rfl, rfl, rfl⟩
  | publish opened unchanged | fail fault unchanged => exact same unchanged
  | abandon | take arrived | timeUp missing waits =>
    exact ⟨fun _ listed => .inl (List.filter_sublist.subset listed), List.filter_sublist.subset⟩
  | refuse missing gone => exact same (.refl uplink)
  | close =>
    simp only [Uplink.close, Move.state_done]
    split
    case isTrue => exact ⟨fun _ => .inl, List.Subset.refl _⟩
    case isFalse =>
      refine ⟨?_, List.Subset.refl _⟩
      intro requestId waits
      cases waits
  | aside before old unchanged => exact same unchanged

/-- A call that does not go on waiting leaves nothing on the desk. -/
theorem DeskMove.cleared (moved : DeskMove uplink op told move) {requestId : String}
    (holds : op.requestId? = some requestId) (left : OnDesk move.state requestId) :
    requestIdOf move.progress = some requestId := by
  have forgotten : ¬ OnDesk (uplink.forget requestId) requestId := by
    rintro (waits | ⟨reply, arrived⟩)
    · simp [forget] at waits
    · simp [forget] at arrived
  cases moved with
  | register asks | close => cases holds
  | publish opened same | fail fault same => exact holds
  | abandon | take arrived | timeUp missing waits =>
    obtain rfl := Option.some.inj holds
    exact absurd left forgotten
  | refuse missing gone =>
    obtain rfl := Option.some.inj holds
    rcases left with waits | ⟨reply, arrived⟩
    · exact absurd waits gone
    · have none := List.find?_eq_none.1 (Option.map_eq_none_iff.1 missing) _ arrived
      simp at none
  | aside before =>
    rw [before] at holds
    cases holds

/-- Whoever comes to wait was let through by an open client. -/
theorem DeskMove.opened (moved : DeskMove uplink op told move) {request : TwinRequest}
    {requestId : String} (waits : move.progress = .running (.awaiting request requestId)) :
    move.state.gate.shutdown = false := by
  cases moved with
  | publish opened same => exact same.shutdown.trans opened
  | aside before old same after =>
    rw [waits] at after
    cases after
  | _ => cases waits

/-- An answer that is taken lay on the desk. -/
theorem DeskMove.took {reply : TwinReply} (moved : DeskMove uplink op told move)
    (taken : .took reply ∈ told ++ endOf move) : ∃ requestId, op.requestId? = some requestId ∧
      (requestId, reply) ∈ uplink.replies := by
  have now : .took reply ∈ told := by
    rcases List.mem_append.1 taken with now | atEnd
    · exact now
    · cases move with
      | go state op => cases atEnd
      | done state answer => cases List.mem_singleton.1 atEnd
  cases moved with
  | @take request requestId other arrived =>
    obtain rfl := Note.took.inj (List.mem_singleton.1 now)
    obtain ⟨⟨named, other⟩, found, rfl⟩ := Option.map_eq_some_iff.1 arrived
    obtain rfl : named = requestId := by simpa using List.find?_some found
    exact ⟨named, rfl, List.mem_of_find?_eq_some found⟩
  | register asks | publish opened same => cases List.mem_singleton.1 now
  | _ => cases now

/-- A client is closed by closing it, which leaves no request waiting. -/
theorem DeskMove.shutdown (moved : DeskMove uplink op told move) :
    move.state.gate.shutdown = uplink.gate.shutdown ∨ move.state.pending = [] := by
  cases moved with
  | publish opened same | fail fault same => exact .inl same.shutdown
  | aside before old same => exact .inl same.shutdown
  | close =>
    simp only [Uplink.close, Move.state_done]
    split
    case isTrue => exact .inl rfl
    case isFalse => exact .inr rfl
  | register asks | abandon | take arrived | refuse missing gone | timeUp missing waits =>
    exact .inl rfl

/-! ## What lies on the desk -/

/-- A call waits, or is going to wait, under an identifier. -/
def Waits (run : Run) (member : Nat) (requestId : String) : Prop :=
  ∃ op, run.members[member]? = some (.running op) ∧ op.requestId? = some requestId

/-- Every answer that was taken had arrived for the call that took it. -/
def Taken (log : List (Option Nat × Note)) : Prop :=
  ∀ place member reply, log[place]? = some (some member, .took reply) →
    ∃ earlier requestId, earlier < place ∧ Answered log earlier member requestId reply

/-- What lies on the desk is paired with the calls that are under way. -/
structure Paired (run : Run) : Prop where
  tidy : run.Tidy
  stories : run.Keeps Fits
  numbered : Numbered run
  owned : ∀ requestId, OnDesk run.state requestId → ∃ member, Waits run member requestId
  answered : ∀ requestId reply, (requestId, reply) ∈ run.state.replies →
    ∃ place member, Answered run.log place member requestId reply
  closed : run.state.gate.shutdown = true →
    ∀ (member : Nat) (request : TwinRequest) (requestId : String),
      run.members[member]? = some (.running (.awaiting request requestId)) →
        requestId ∉ run.state.pending
  taken : Taken run.log

variable {run : Run} {member : Nat} {log more : List (Option Nat × Note)}

theorem taken_append (taken : Taken log)
    (fresh : ∀ member reply, (some member, .took reply) ∈ more →
      ∃ place requestId, Answered log place member requestId reply) : Taken (log ++ more) := by
  intro place member reply found
  rw [List.getElem?_append] at found
  split at found
  case isTrue within =>
    obtain ⟨earlier, requestId, before, answered⟩ := taken place member reply found
    exact ⟨earlier, requestId, before, answered.append⟩
  case isFalse beyond =>
    obtain ⟨earlier, requestId, answered⟩ := fresh member reply (List.mem_of_getElem? found)
    obtain ⟨topic, payload, response, entry, _⟩ := id answered
    have within := (List.getElem?_eq_some_iff.1 entry).1
    exact ⟨earlier, requestId, by omega, answered.append⟩

theorem Answered.registered {place member : Nat} {requestId : String} {reply : TwinReply}
    (answered : Answered log place member requestId reply) :
    (some member, .registered requestId) ∈ log := by
  obtain ⟨_, _, _, _, _, _, _, registered⟩ := answered
  exact List.mem_of_mem_take registered

/-- A call that waits has registered the identifier. -/
theorem Paired.registered (paired : Paired run) {requestId : String}
    (waits : Waits run member requestId) : (some member, .registered requestId) ∈ run.log := by
  obtain ⟨op, held, holds⟩ := waits
  exact Crew.mem_story.1 ((paired.stories member _ held).registered holds)

theorem paired_fresh (identity : Identity) (settings : Settings.Hub)
    (router : Topic.Router Destination) :
    Paired { state := fresh identity settings router } where
  tidy := fun _ _ => nofun
  stories := fun _ _ => nofun
  numbered := numbered_fresh identity settings router
  owned := by rintro requestId (waits | ⟨reply, arrived⟩) <;> contradiction
  answered := fun _ _ => nofun
  closed := by
    intro shutdown
    cases shutdown
  taken := fun _ _ _ => nofun

theorem paired_enter (paired : Paired run) (call : ClientCall) :
    Paired (run.enter (.begin call) [.begun call]) := by
  have held {other : Nat} {op : Op} {requestId : String} (holds : op.requestId? = some requestId)
      (found : (run.enter (.begin call) [.begun call]).members[other]? = some (.running op)) :
      run.members[other]? = some (.running op) := by
    rw [Crew.members_enter] at found
    split at found
    case isTrue same =>
      obtain rfl := Progress.running.inj (Option.some.inj found)
      cases holds
    case isFalse apart => exact found
  constructor
  case tidy => exact Crew.tidy_enter paired.tidy _
  case stories =>
    apply Crew.keeps_enter paired.tidy paired.stories
    exact ⟨call, by simp, rfl, rfl⟩
  case numbered => exact numbered_enter paired.numbered call
  case owned =>
    intro requestId desk
    obtain ⟨member, op, was, holds⟩ := paired.owned requestId desk
    refine ⟨member, op, ?_, holds⟩
    rw [Crew.members_enter, if_neg]
    · exact was
    · exact Nat.ne_of_lt (List.getElem?_eq_some_iff.1 was).1
  case answered =>
    intro requestId reply arrived
    obtain ⟨place, member, answered⟩ := paired.answered requestId reply arrived
    exact ⟨place, member, answered.append⟩
  case closed =>
    intro shutdown other request requestId found
    exact paired.closed shutdown other request requestId (held rfl found)
  case taken =>
    apply taken_append paired.taken
    intro owner reply listed
    cases List.mem_singleton.1 listed

/-- The state changes from outside and the desk does not. -/
theorem paired_drift (paired : Paired run) {state : Uplink} {notes : List Note}
    (same : SameDesk run.state state)
    (plain : ∀ note ∈ notes, note.isRegistered = false ∧ note.isRequest = false) :
    Paired (run.drift state notes) where
  tidy := Crew.tidy_drift paired.tidy state
  stories := Crew.keeps_drift paired.stories fun _ _ => Fits.congr same.identity
  numbered := numbered_drift paired.numbered same.nextRequest plain
  owned := by
    intro requestId desk
    rw [OnDesk, Crew.state_drift, same.pending, same.replies] at desk
    exact paired.owned requestId desk
  answered := by
    intro requestId reply arrived
    rw [Crew.state_drift, same.replies] at arrived
    obtain ⟨place, member, answered⟩ := paired.answered requestId reply arrived
    exact ⟨place, member, answered.append⟩
  closed := by
    intro shutdown
    rw [Crew.state_drift, same.shutdown] at shutdown
    rw [Crew.state_drift, same.pending]
    exact paired.closed shutdown
  taken := by
    apply taken_append paired.taken
    intro owner reply listed
    obtain ⟨note, _, same⟩ := List.mem_map.1 listed
    cases (Prod.mk.inj same).1

/-- An answer arrives and is kept for the call that waits for it. -/
theorem paired_deliver (paired : Paired run) {topic : String} {payload : Bytes}
    {response : Topic.Hub.TwinResponse}
    (parsed : Topic.Hub.parseTwinResponse? topic = some response)
    (waits : response.requestId ∈ run.state.pending) :
    Paired (run.drift (run.state.deliverReply response.requestId
      ⟨response.status, response.version, payload⟩) [.arrived topic payload]) := by
  have delivered : run.state.deliverReply response.requestId
      ⟨response.status, response.version, payload⟩ =
        { run.state with
          pending := run.state.pending.filter fun other => other != response.requestId
          replies := run.state.replies ++
            [(response.requestId, ⟨response.status, response.version, payload⟩)] } :=
    if_pos waits
  rw [delivered]
  constructor
  case tidy => exact Crew.tidy_drift paired.tidy _
  case stories => exact Crew.keeps_drift paired.stories fun _ _ => Fits.congr rfl
  case numbered => exact numbered_drift paired.numbered rfl (by simp [Note.isRegistered, Note.isRequest])
  case owned =>
    rintro requestId (still | ⟨reply, arrived⟩)
    · exact paired.owned requestId (.inl (List.mem_filter.1 still).1)
    · rcases List.mem_append.1 arrived with old | new
      · exact paired.owned requestId (.inr ⟨reply, old⟩)
      · obtain ⟨rfl, _⟩ := Prod.mk.inj (List.mem_singleton.1 new)
        exact paired.owned response.requestId (.inl waits)
  case answered =>
    intro requestId reply arrived
    rcases List.mem_append.1 arrived with old | new
    · obtain ⟨place, member, answered⟩ := paired.answered requestId reply old
      exact ⟨place, member, answered.append⟩
    · obtain ⟨rfl, rfl⟩ := Prod.mk.inj (List.mem_singleton.1 new)
      obtain ⟨member, waiting⟩ := paired.owned response.requestId (.inl waits)
      refine ⟨run.log.length, member, topic, payload, response, ?_, parsed, rfl, rfl, ?_⟩
      · simp [Crew.drift]
      · simpa [Crew.drift] using paired.registered waiting
  case closed =>
    intro shutdown member request requestId held still
    exact paired.closed shutdown member request requestId held (List.mem_filter.1 still).1
  case taken =>
    apply taken_append paired.taken
    intro owner reply listed
    cases List.mem_singleton.1 listed

/-- The others go on waiting when a call moves, and the call itself does if its identifier is left. -/
theorem waits_follow (held : run.members[member]? = some (.running op))
    (moved : DeskMove run.state op told move) {other : Nat} {requestId : String}
    (waits : Waits run other requestId) (left : OnDesk move.state requestId) (notes : List Note) :
    Waits (run.follow member move notes) other requestId := by
  obtain ⟨now, was, holds⟩ := waits
  by_cases same : other = member
  · subst same
    obtain rfl := Progress.running.inj (Option.some.inj (held.symm.trans was))
    have further := moved.cleared holds left
    cases reached : move.progress with
    | running next =>
      rw [reached] at further
      refine ⟨next, ?_, further⟩
      rw [Crew.members_follow held, if_pos rfl, reached]
    | ended answer =>
      rw [reached] at further
      cases further
  · refine ⟨now, ?_, holds⟩
    rw [Crew.members_follow held, if_neg same]
    exact was

theorem owned_follow (paired : Paired run) (held : run.members[member]? = some (.running op))
    (moved : DeskMove run.state op told move) (notes : List Note) (requestId : String)
    (desk : OnDesk move.state requestId) :
    ∃ other, Waits (run.follow member move notes) other requestId := by
  have old (before : OnDesk run.state requestId) :
      ∃ other, Waits (run.follow member move notes) other requestId := by
    obtain ⟨other, waits⟩ := paired.owned requestId before
    exact ⟨other, waits_follow held moved waits desk notes⟩
  rcases id desk with waits | ⟨reply, arrived⟩
  · rcases moved.less.1 requestId waits with before | ⟨_, _, further⟩
    · exact old (.inl before)
    · cases reached : move.progress with
      | running next =>
        rw [reached] at further
        refine ⟨member, next, ?_, further⟩
        rw [Crew.members_follow held, if_pos rfl, reached]
      | ended answer =>
        rw [reached] at further
        cases further
  · exact old (.inr ⟨reply, moved.less.2 arrived⟩)

theorem paired_follow (paired : Paired run) (few : requests run < Word.count64)
    (held : run.members[member]? = some (.running op)) (moved : DeskMove run.state op told move) :
    Paired (run.follow member move (told ++ endOf move)) where
  tidy := Crew.tidy_follow held paired.tidy
  stories := Crew.keeps_follow held paired.stories (fun _ _ => Fits.congr moved.identity)
    (fits_of_deskMove moved)
  numbered := numbered_follow paired.numbered few held moved
  owned := owned_follow paired held moved _
  answered := by
    intro requestId reply arrived
    obtain ⟨place, owner, answered⟩ := paired.answered requestId reply (moved.less.2 arrived)
    exact ⟨place, owner, answered.append⟩
  closed := by
    intro shutdown other request requestId found waits
    rw [Crew.members_follow held] at found
    split at found
    case isTrue same =>
      have opened := moved.opened (Option.some.inj found)
      rw [Crew.state_follow, opened] at shutdown
      cases shutdown
    case isFalse apart =>
      rcases moved.shutdown with same | none
      · rw [Crew.state_follow, same] at shutdown
        rcases moved.less.1 requestId waits with before | ⟨new, named, _⟩
        · exact paired.closed shutdown other request requestId found before
        · -- The number of a new request is not the one under which somebody waits.
          exact (paired.numbered.fresh few held new).2 _ requestId
            (paired.registered ⟨_, found, rfl⟩) named
      · rw [Crew.state_follow, none] at waits
        cases waits
  taken := by
    apply taken_append paired.taken
    intro owner reply listed
    obtain ⟨note, told, same⟩ := List.mem_map.1 listed
    obtain ⟨owned, rfl⟩ := Prod.mk.inj same
    obtain rfl := Option.some.inj owned
    obtain ⟨requestId, holds, arrived⟩ := moved.took told
    obtain ⟨place, owner', answered⟩ := paired.answered requestId reply arrived
    obtain rfl := paired.numbered.apart _ _ requestId answered.registered
      (paired.registered ⟨op, held, holds⟩)
    exact ⟨place, requestId, answered⟩

theorem paired_act (paired : Paired run) {event : Event}
    (few : requests (act run event) < Word.count64) : Paired (act run event) := by
  revert few
  apply @act_induction fun after => requests after < Word.count64 → Paired after
  case begins => exact fun call _ _ => paired_enter paired call
  case moves =>
    intro member op told move held moved few
    rw [requests_follow moved] at few
    exact paired_follow paired few held moved
  case arrives =>
    intro topic payload _
    have plain : ∀ note ∈ [Note.arrived topic payload],
        note.isRegistered = false ∧ note.isRequest = false := by
      simp [Note.isRegistered, Note.isRequest]
    rcases accept_cases run.state topic payload with same | ⟨response, parsed, delivers⟩
    · exact paired_drift paired same plain
    · rw [delivers]
      by_cases waits : response.requestId ∈ run.state.pending
      · exact paired_deliver paired parsed waits
      · rw [deliverReply, if_neg waits]
        exact paired_drift paired (.refl run.state) plain
  case drifts => exact fun state same _ => paired_drift paired same fun _ => nofun
  case now => exact fun _ => paired

/-- What is paired stays paired while the numbers do not begin again. -/
theorem paired_onward (events : List Event) (paired : Paired run)
    (few : requests run + events.countP Event.isRequest < Word.count64) :
    Paired (onward run events) := by
  induction events generalizing run with
  | nil => exact paired
  | cons event rest ih =>
    have step := requests_act_le run event
    rw [List.countP_cons] at few
    apply ih
    · exact paired_act paired (by omega)
    · omega

theorem Paired.left (paired : Paired run) {answer : ClientAnswer} {requestId : String}
    (ended : run.members[member]? = some (.ended answer))
    (registered : (some member, .registered requestId) ∈ run.log) :
    ¬ OnDesk run.state requestId := by
  intro desk
  obtain ⟨other, waits⟩ := paired.owned requestId desk
  obtain rfl := paired.numbered.apart _ _ requestId registered (paired.registered waits)
  obtain ⟨op, held, _⟩ := waits
  cases ended.symm.trans held

end Uplink

end DeviceGateway
