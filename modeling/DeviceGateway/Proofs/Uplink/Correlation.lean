/-
# Requests and their answers

A twin request takes an answer only if it came under the identifier of the request, after the request
was registered, and it takes one at most.  Nothing is left on the desk by a request that is over, however
it ended, so the desk is empty when none is under way.  Every request can be driven to its end by its own
moves.  A request that waits when the client is closed ends without a connection: nothing can arrive for
it any more, because an answer is kept only for an identifier that lies on the desk.
-/

import DeviceGateway.Proofs.Uplink.Desk

namespace DeviceGateway

namespace Uplink

variable {uplink : Uplink} {op : Op} {told : List Note} {move : Move Uplink Op ClientAnswer}
  {run : Run} {member : Nat}

/-! ## Requests come to an end -/

theorem members_timesOut (held : run.members[member]? = some (.running op))
    (stuck : run.state.canStep op = false) (waits : (run.state.patience? op).isSome = true) :
    (act run (.timesOut member)).members[member]? = some (run.state.timeUp op).progress := by
  simp only [act, Crew.advance, held, onTimeUp, stuck, waits, Bool.not_false, Bool.and_self, if_true]
  rw [Crew.members_follow held, if_pos rfl]

/-- How many moves a twin request still makes at most. -/
def Op.toGo : Op → Nat
  | begin _ => 3
  | publishing _ _ => 2
  | abandoning _ _ _ | awaiting _ _ => 1
  | _ => 0

/-- Whether a call is a twin request. -/
def Op.isTwin (op : Op) : Bool := op.isNew || op.requestId?.isSome

/-- A move of a twin request ends it or brings it nearer to its end. -/
theorem DeskMove.shortens (moved : DeskMove uplink op told move) (twin : op.isTwin = true) :
    (∃ answer, move.progress = .ended answer) ∨
      ∃ next, move.progress = .running next ∧ next.isTwin = true ∧ next.toGo < op.toGo := by
  cases moved with
  | @register call request asks =>
    exact .inr ⟨.publishing request _, rfl, rfl, Nat.lt_succ_self 2⟩
  | @publish request requestId state opened same =>
    exact .inr ⟨.awaiting request requestId, rfl, rfl, Nat.lt_succ_self 1⟩
  | @fail request requestId state fault same =>
    exact .inr ⟨.abandoning request requestId fault, rfl, rfl, Nat.lt_succ_self 1⟩
  | abandon | take arrived | refuse missing gone | timeUp missing waits => exact .inl ⟨_, rfl⟩
  | close => cases twin
  | aside before old =>
    rw [Op.isTwin, before, old] at twin
    cases twin

/-- A twin request either can go on or has a limit to its patience. -/
theorem canStep_or_patience (uplink : Uplink) (twin : op.isTwin = true) :
    uplink.canStep op = true ∨ (uplink.patience? op).isSome = true := by
  cases op with
  | begin call | publishing request requestId | abandoning request requestId fault => exact .inl rfl
  | awaiting request requestId => exact .inr rfl
  | sending messages | inLine ticket timeout | receiving ticket timeout => cases twin

/-- A twin request comes to an end by its own moves, whatever the others do not do. -/
theorem exists_ended (held : run.members[member]? = some (.running op)) (twin : op.isTwin = true) :
    ∃ more, (∀ event ∈ more, event = .steps member ∨ event = .timesOut member) ∧
      ∃ answer, (onward run more).members[member]? = some (.ended answer) := by
  induction bound : op.toGo using Nat.strongRecOn generalizing run op with
  | _ count ih =>
    -- Whichever of its two events lets the request move, it ends or is left with less to go.
    have continues {event : Event} {move : Move Uplink Op ClientAnswer}
        (own : event = .steps member ∨ event = .timesOut member)
        (moved : DeskMove run.state op (run.state.seen op) move)
        (reached : (act run event).members[member]? = some move.progress) :
        ∃ more, (∀ event ∈ more, event = .steps member ∨ event = .timesOut member) ∧
          ∃ answer, (onward run more).members[member]? = some (.ended answer) := by
      rcases moved.shortens twin with ⟨answer, ended⟩ | ⟨next, goes, twin', less⟩
      · rw [ended] at reached
        exact ⟨[event], by simpa using own, answer, reached⟩
      · rw [goes] at reached
        obtain ⟨more, owns, ends⟩ := ih next.toGo (bound ▸ less) reached twin' rfl
        exact ⟨event :: more, List.forall_mem_cons.2 ⟨own, owns⟩, ends⟩
    by_cases can : run.state.canStep op = true
    · exact continues (.inl rfl) (deskMove_step can) (members_steps held can)
    · have stuck : run.state.canStep op = false := by simpa using can
      have waits := (canStep_or_patience run.state twin).resolve_left can
      exact continues (.inr rfl) (deskMove_timeUp stuck waits) (members_timesOut held stuck waits)

/-! ## Requests that wait when the client is closed -/

/-- Nothing is left for a request to wait for, or it was already told that there is no connection. -/
def Dismissed (run : Run) (member : Nat) (request : TwinRequest) : Prop :=
  run.members[member]? = some (.ended (request.refusal .notConnected)) ∨
    ∃ requestId, run.members[member]? = some (.running (.awaiting request requestId)) ∧
      ¬ OnDesk run.state requestId

theorem onDesk_iff {requestId : String} : OnDesk uplink requestId ↔
    requestId ∈ uplink.pending ∨ uplink.reply? requestId ≠ none := by
  have arrived : (∃ reply, (requestId, reply) ∈ uplink.replies) ↔
      uplink.reply? requestId ≠ none := by
    rw [reply?, ne_eq, Option.map_eq_none_iff, List.find?_eq_none]
    simp
  rw [OnDesk, arrived]

/-- A publication puts nothing onto the desk under an identifier under which nothing lies. -/
theorem onDesk_of_accept {topic : String} {payload : Bytes} {requestId : String}
    (desk : OnDesk (uplink.accept topic payload).1 requestId) : OnDesk uplink requestId := by
  rcases accept_cases uplink topic payload with same | ⟨response, _, delivers⟩
  · rw [OnDesk, same.pending, same.replies] at desk
    exact desk
  · rw [delivers] at desk
    unfold deliverReply at desk
    split at desk
    case isTrue waits =>
      rcases desk with still | ⟨reply, arrived⟩
      · exact .inl (List.mem_filter.1 still).1
      · rcases List.mem_append.1 arrived with old | new
        · exact .inr ⟨reply, old⟩
        · obtain ⟨rfl, _⟩ := Prod.mk.inj (List.mem_singleton.1 new)
          exact .inl waits
    case isFalse => exact desk

/-- What a request does for which nothing lies on the desk. -/
theorem DeskMove.dismissed {request : TwinRequest} {requestId : String}
    (moved : DeskMove uplink (.awaiting request requestId) told move)
    (gone : ¬ OnDesk uplink requestId) :
    move.progress = .ended (request.refusal .notConnected) := by
  rw [onDesk_iff, not_or, ne_eq, not_not] at gone
  cases moved with
  | take arrived =>
    rw [gone.2] at arrived
    cases arrived
  | refuse missing absent => rfl
  | timeUp missing waits => exact absurd waits gone.1
  | aside before => cases before

theorem dismissed_act {request : TwinRequest} {event : Event} (paired : Paired run)
    (few : requests (act run event) < Word.count64) (dismissed : Dismissed run member request) :
    Dismissed (act run event) member request := by
  revert few
  apply @act_induction fun after => requests after < Word.count64 → Dismissed after member request
  case begins =>
    intro call _ _
    have kept {progress : Progress Op ClientAnswer} (held : run.members[member]? = some progress) :
        (run.enter (.begin call) [.begun call]).members[member]? = some progress := by
      rw [Crew.members_enter, if_neg]
      · exact held
      · exact Nat.ne_of_lt (List.getElem?_eq_some_iff.1 held).1
    exact dismissed.imp kept fun ⟨requestId, held, gone⟩ => ⟨requestId, kept held, gone⟩
  case moves =>
    intro other op told move held moved few
    rw [requests_follow moved] at few
    rcases dismissed with ended | ⟨requestId, waits, gone⟩
    · left
      rw [Crew.members_follow held, if_neg]
      · exact ended
      · rintro rfl
        cases held.symm.trans ended
    · by_cases same : member = other
      · subst same
        obtain rfl := Progress.running.inj (Option.some.inj (held.symm.trans waits))
        left
        rw [Crew.members_follow held, if_pos rfl, moved.dismissed gone]
      · refine .inr ⟨requestId, ?_, ?_⟩
        · rw [Crew.members_follow held, if_neg same]
          exact waits
        · rintro (still | ⟨reply, arrived⟩)
          · rcases moved.less.1 requestId still with before | ⟨new, named, _⟩
            · exact gone (.inl before)
            · exact (paired.numbered.fresh few held new).2 _ requestId
                (paired.registered ⟨_, waits, rfl⟩) named
          · exact gone (.inr ⟨reply, moved.less.2 arrived⟩)
  case arrives =>
    intro topic payload _
    exact dismissed.imp id fun ⟨requestId, waits, gone⟩ =>
      ⟨requestId, waits, fun desk => gone (onDesk_of_accept desk)⟩
  case drifts =>
    intro state same _
    refine dismissed.imp id fun ⟨requestId, waits, gone⟩ => ⟨requestId, waits, ?_⟩
    rw [Crew.state_drift, OnDesk, same.pending, same.replies]
    exact gone
  case now => exact fun _ => dismissed

theorem dismissed_onward {request : TwinRequest} (events : List Event) (paired : Paired run)
    (few : requests run + events.countP Event.isRequest < Word.count64)
    (dismissed : Dismissed run member request) : Dismissed (onward run events) member request := by
  induction events generalizing run with
  | nil => exact dismissed
  | cons event rest ih =>
    have step := requests_act_le run event
    rw [List.countP_cons] at few
    have now : requests (act run event) < Word.count64 := by omega
    apply ih (paired_act paired now)
    · omega
    · exact dismissed_act paired now dismissed

/-- Closing the client dismisses the requests whose answer has not arrived. -/
theorem dismissed_close {request : TwinRequest} {requestId : String} {closer : Nat}
    (paired : Paired run) (closes : run.members[closer]? = some (.running (.begin .close)))
    (waits : run.members[member]? = some (.running (.awaiting request requestId)))
    (missing : run.state.reply? requestId = none) :
    Dismissed (act run (.steps closer)) member request := by
  have apart : member ≠ closer := by
    rintro rfl
    cases waits.symm.trans closes
  have moves : act run (.steps closer) = run.follow closer
      (.done run.state.close (.done (.ok ()))) [.ended (.done (.ok ()))] := act_steps closes rfl
  refine .inr ⟨requestId, ?_, ?_⟩
  · rw [moves, Crew.members_follow closes, if_neg apart]
    exact waits
  · rw [moves, onDesk_iff, not_or, ne_eq, not_not, Crew.state_follow, Move.state_done,
      Uplink.close]
    split
    case isTrue shutdown => exact ⟨paired.closed shutdown member request requestId waits, missing⟩
    case isFalse => exact ⟨List.not_mem_nil, missing⟩

/-- Who was dismissed and goes on is told that there is no connection. -/
theorem Dismissed.ends {request : TwinRequest} (dismissed : Dismissed run member request) :
    (act run (.steps member)).members[member]? =
      some (.ended (request.refusal .notConnected)) := by
  rcases dismissed with ended | ⟨requestId, waits, gone⟩
  · simp only [act, Crew.advance, ended]
  · have absent : requestId ∉ run.state.pending := fun waits => gone (.inl waits)
    have can : run.state.canStep (.awaiting request requestId) = true := by
      simp [canStep, absent]
    rw [members_steps waits can, (deskMove_step can).dismissed gone]

/-! ## Correlation -/

/-- What the caller gets for an answer of the hub. -/
structure Concludes (identity : Identity) (request : TwinRequest) (reply : TwinReply)
    (answer : ClientAnswer) : Prop where
  /-- Only an answer whose status is a success is one. -/
  succeeds : answer.outcome.isOk = true → 200 ≤ reply.status ∧ reply.status ≤ 299
  /-- Such an answer is a success, unless a twin that was fetched cannot be read. -/
  accepts : 200 ≤ reply.status → reply.status ≤ 299 →
    answer.outcome.isOk = true ∨ request = .fetch ∧ Twin.shape.read? reply.body = none
  fails : ¬ (200 ≤ reply.status ∧ reply.status ≤ 299) →
    answer = request.refusal
      (if reply.status = 401 then .unauthorized identity.toText (Utf8.toStringLossy reply.body)
        else .requestFailed reply.status (Utf8.toStringLossy reply.body))

theorem concludes_conclude (uplink : Uplink) (request : TwinRequest) (reply : TwinReply) :
    Concludes uplink.identity request reply (uplink.conclude reply request) := by
  by_cases success : 200 ≤ reply.status ∧ reply.status ≤ 299
  · have faultless : uplink.replyFault reply = none := if_pos success
    have accepted : (uplink.conclude reply request).outcome.isOk = true ∨
        request = .fetch ∧ Twin.shape.read? reply.body = none := by
      simp only [conclude, faultless]
      cases request with
      | report patch => exact .inl rfl
      | fetch =>
        cases parsed : Twin.shape.read? reply.body with
        | some twin => exact .inl rfl
        | none => exact .inr ⟨rfl, rfl⟩
    exact ⟨fun _ => success, fun _ _ => accepted, fun failed => absurd success failed⟩
  · have faulty : uplink.replyFault reply = some
        (if reply.status = 401 then
          .unauthorized uplink.identity.toText (Utf8.toStringLossy reply.body)
        else .requestFailed reply.status (Utf8.toStringLossy reply.body)) := by
      rw [replyFault, if_neg success, apply_ite some]
    have refused : uplink.conclude reply request = request.refusal
        (if reply.status = 401 then
          .unauthorized uplink.identity.toText (Utf8.toStringLossy reply.body)
        else .requestFailed reply.status (Utf8.toStringLossy reply.body)) := by
      simp only [conclude, faulty]
    constructor
    case succeeds =>
      intro succeeded
      rw [refused] at succeeded
      cases request <;> cases succeeded
    case accepts => exact fun low high => absurd ⟨low, high⟩ success
    case fails => exact fun _ => refused

theorem identity_act (run : Run) (event : Event) :
    (act run event).state.identity = run.state.identity := by
  apply @act_induction fun after => after.state.identity = run.state.identity
  case begins => exact fun call _ => rfl
  case moves => exact fun member op told move _ moved => moved.identity
  case arrives =>
    intro topic payload
    rcases accept_cases run.state topic payload with same | ⟨response, _, delivers⟩
    · exact same.identity
    · rw [Crew.state_drift, delivers, deliverReply]
      split <;> rfl
  case drifts => exact fun state same => same.identity
  case now => rfl

theorem identity_onward (run : Run) (events : List Event) :
    (onward run events).state.identity = run.state.identity := by
  induction events generalizing run with
  | nil => rfl
  | cons event rest ih => exact (ih (act run event)).trans (identity_act run event)

/-- The answer to a request that waits for it is taken by this request. -/
theorem resolves {request : TwinRequest} {topic : String} {response : Topic.Hub.TwinResponse}
    (payload : Bytes)
    (held : run.members[member]? = some (.running (.awaiting request response.requestId)))
    (waits : response.requestId ∈ run.state.pending)
    (missing : run.state.reply? response.requestId = none)
    (routed : run.state.router.route topic = some .twinResponses)
    (parsed : Topic.Hub.parseTwinResponse? topic = some response) :
    ∃ answer, (act (act run (.arrives topic payload)) (.steps member)).members[member]? =
        some (.ended answer) ∧
      Concludes run.state.identity request ⟨response.status, response.version, payload⟩ answer := by
  have delivered : (run.state.accept topic payload).1 =
      { run.state with
        pending := run.state.pending.filter fun other => other != response.requestId
        replies := run.state.replies ++
          [(response.requestId, ⟨response.status, response.version, payload⟩)] } := by
    simp only [accept, routed, acceptFor, parsed]
    exact if_pos waits
  have arrived : (act run (.arrives topic payload)).state.reply? response.requestId =
      some ⟨response.status, response.version, payload⟩ := by
    have before := Option.map_eq_none_iff.1 missing
    simp only [act, Crew.state_drift, delivered, reply?, List.find?_append, before]
    simp
  have can : (act run (.arrives topic payload)).state.canStep
      (.awaiting request response.requestId) = true := by
    simp [canStep, arrived]
  have still : (act run (.arrives topic payload)).members[member]? =
      some (.running (.awaiting request response.requestId)) := held
  have same := identity_act run (.arrives topic payload)
  refine ⟨_, ?_, concludes_conclude run.state request _⟩
  rw [members_steps still can]
  simp only [step, arrived, Move.progress_done, conclude_congr same]

/-- What can be said of the twin requests and of the answers of the hub in a run of a client. -/
structure Correlated (uplink : Uplink) (events : List Event) : Prop where
  /-- An answer that is taken came after the request was registered, under the identifier under which
  the request was published; it is the only one that this request takes. -/
  taken : ∀ place member reply, (uplink.run events).log[place]? = some (some member, .took reply) →
    ∃ (earlier : Nat) (request : TwinRequest) (requestId : String), earlier < place ∧
      Answered (uplink.run events).log earlier member requestId reply ∧
        twinNotes ((uplink.run events).story member) =
          [.registered requestId, .published (request.topic requestId), .took reply]
  once : ∀ member, ((uplink.run events).story member).countP Note.isTaking ≤ 1
  /-- What arrives is the answer to one request at most. -/
  single : ∀ place first second requestId requestId' reply reply',
    Answered (uplink.run events).log place first requestId reply →
      Answered (uplink.run events).log place second requestId' reply' → first = second
  /-- What lies on the desk belongs to a request that is under way. -/
  held : ∀ requestId, OnDesk (uplink.run events).state requestId →
    ∃ member, Waits (uplink.run events) member requestId
  /-- A call that is over has left nothing there. -/
  left : ∀ member answer requestId, (uplink.run events).members[member]? = some (.ended answer) →
    (some member, .registered requestId) ∈ (uplink.run events).log →
      ¬ OnDesk (uplink.run events).state requestId
  empty : (∀ member requestId, ¬ Waits (uplink.run events) member requestId) →
    (uplink.run events).state.pending = [] ∧ (uplink.run events).state.replies = []
  /-- A request ends with a fault and no answer, or with what its answer means. -/
  outcome : ∀ member answer call request,
    (uplink.run events).members[member]? = some (.ended answer) →
      (some member, .begun call) ∈ (uplink.run events).log → twinRequest? call = some request →
        (∃ fault, answer = request.refusal fault) ∧
            (∀ reply, (some member, .took reply) ∉ (uplink.run events).log) ∨
          ∃ reply, (some member, .took reply) ∈ (uplink.run events).log ∧
            Concludes uplink.identity request reply answer
  /-- A request that waits ends with what the answer means that comes under its identifier. -/
  resolved : ∀ member request topic payload response,
    (uplink.run events).members[member]? =
        some (.running (.awaiting request response.requestId)) →
      response.requestId ∈ (uplink.run events).state.pending →
        (uplink.run events).state.reply? response.requestId = none →
          (uplink.run events).state.router.route topic = some .twinResponses →
            Topic.Hub.parseTwinResponse? topic = some response → ∃ answer,
              (uplink.run (events ++ [.arrives topic payload, .steps member])).members[member]? =
                  some (.ended answer) ∧
                Concludes uplink.identity request ⟨response.status, response.version, payload⟩ answer
  /-- A request can always be driven to its end without any other event. -/
  driven : ∀ member op, (uplink.run events).members[member]? = some (.running op) →
    op.isTwin = true → ∃ more, (∀ event ∈ more, event = .steps member ∨ event = .timesOut member) ∧
      ∃ answer, (uplink.run (events ++ more)).members[member]? = some (.ended answer)
  /-- A request that waits when the client is closed ends without a connection. -/
  closing : ∀ earlier closer later member request requestId,
    events = earlier ++ .steps closer :: later →
      (uplink.run earlier).members[closer]? = some (.running (.begin .close)) →
        (uplink.run earlier).members[member]? = some (.running (.awaiting request requestId)) →
          (uplink.run earlier).state.reply? requestId = none →
            (uplink.run (events ++ [.steps member])).members[member]? =
              some (.ended (request.refusal .notConnected))

theorem Paired.took (paired : Paired run) {place : Nat} {reply : TwinReply}
    (found : run.log[place]? = some (some member, .took reply)) :
    ∃ (earlier : Nat) (request : TwinRequest) (requestId : String), earlier < place ∧
      Answered run.log earlier member requestId reply ∧ twinNotes (run.story member) =
        [.registered requestId, .published (request.topic requestId), .took reply] := by
  have told := Crew.mem_story.2 (List.mem_of_getElem? found)
  obtain ⟨earlier, requestId, before, answered⟩ := paired.taken place member reply found
  obtain ⟨progress, _, fits⟩ := paired.stories.exists_fits paired.tidy told
  obtain ⟨request, requestId', _, whole⟩ := fits.took told
  have registered := (mem_twinNotes rfl).2 (Crew.mem_story.2 answered.registered)
  rw [whole] at registered
  obtain rfl : requestId = requestId' := by simpa using registered
  exact ⟨earlier, request, requestId, before, answered, whole⟩

/-- The topic names the request, and no two have the same identifier. -/
theorem Paired.single (paired : Paired run) {place first second : Nat}
    {requestId requestId' : String} {reply reply' : TwinReply}
    (one : Answered run.log place first requestId reply)
    (other : Answered run.log place second requestId' reply') : first = second := by
  obtain ⟨topic, payload, response, entry, parsed, rfl, _⟩ := id one
  obtain ⟨topic', payload', response', entry', parsed', rfl, _⟩ := id other
  obtain ⟨rfl, _⟩ := Note.arrived.inj (Prod.mk.inj (Option.some.inj (entry.symm.trans entry'))).2
  obtain rfl := Option.some.inj (parsed.symm.trans parsed')
  exact paired.numbered.apart _ _ _ one.registered other.registered

theorem Paired.empty (paired : Paired run) (idle : ∀ member requestId, ¬ Waits run member requestId) :
    run.state.pending = [] ∧ run.state.replies = [] := by
  have clear (requestId : String) : ¬ OnDesk run.state requestId := by
    intro desk
    obtain ⟨member, waits⟩ := paired.owned requestId desk
    exact idle member requestId waits
  constructor
  · rw [List.eq_nil_iff_forall_not_mem]
    exact fun requestId waits => clear requestId (.inl waits)
  · rw [List.eq_nil_iff_forall_not_mem]
    exact fun ⟨requestId, reply⟩ arrived => clear requestId (.inr ⟨reply, arrived⟩)

theorem Paired.outcome (paired : Paired run) {answer : ClientAnswer} {call : ClientCall}
    {request : TwinRequest} (ended : run.members[member]? = some (.ended answer))
    (begun : (some member, .begun call) ∈ run.log) (asks : twinRequest? call = some request) :
    (∃ fault, answer = request.refusal fault) ∧ (∀ reply, (some member, .took reply) ∉ run.log) ∨
      ∃ reply, (some member, .took reply) ∈ run.log ∧
        Concludes run.state.identity request reply answer := by
  rcases (paired.stories member _ ended).outcome (Crew.mem_story.2 begun) asks with
    ⟨refused, untaken⟩ | ⟨reply, taken, rfl⟩
  · exact .inl ⟨refused, fun reply told => untaken reply (Crew.mem_story.2 told)⟩
  · exact .inr ⟨reply, Crew.mem_story.1 taken, concludes_conclude run.state request reply⟩

theorem paired_run (identity : Identity) (settings : Settings.Hub)
    (router : Topic.Router Destination) (events : List Event)
    (few : events.countP Event.isRequest < Word.count64) :
    Paired ((fresh identity settings router).run events) := by
  apply paired_onward events (paired_fresh identity settings router)
  rw [show requests { state := fresh identity settings router } = 0 from rfl, Nat.zero_add]
  exact few

/-- Requests and answers are correlated in every run of a client in which fewer requests begin than there
are numbers for them. -/
theorem correlated_run (identity : Identity) (settings : Settings.Hub)
    (router : Topic.Router Destination) (events : List Event)
    (few : events.countP Event.isRequest < Word.count64) :
    Correlated (fresh identity settings router) events := by
  have paired := paired_run identity settings router events few
  have same : ((fresh identity settings router).run events).state.identity = identity :=
    identity_onward _ events
  constructor
  case taken => exact fun place member reply => paired.took
  case once =>
    exact paired.stories.countP_story_le_one paired.tidy fun _ _ => Fits.countP_isTaking_le_one
  case single => exact fun place first second requestId requestId' reply reply' => paired.single
  case held => exact paired.owned
  case left => exact fun member answer requestId => paired.left
  case empty => exact paired.empty
  case outcome =>
    intro member answer call request ended begun asks
    have outcome := paired.outcome ended begun asks
    rwa [same] at outcome
  case resolved =>
    intro member request topic payload response held waits missing routed parsed
    have resolved := resolves payload held waits missing routed parsed
    rw [same] at resolved
    rw [run_append]
    exact resolved
  case driven =>
    intro member op held twin
    obtain ⟨more, own, answer, ended⟩ := exists_ended held twin
    exact ⟨more, own, answer, by rw [run_append]; exact ended⟩
  case closing =>
    rintro earlier closer later member request requestId rfl closes waits missing
    rw [List.countP_append, List.countP_cons] at few
    have soFar := requests_run_le identity settings router earlier
    have step := requests_act_le ((fresh identity settings router).run earlier) (.steps closer)
    have before := paired_run identity settings router earlier (by omega)
    have dismissed := dismissed_close before closes waits missing
    have still := dismissed_onward later (paired_act before (by omega)) (by omega) dismissed
    rw [run_append, run_append]
    exact still.ends

/-- Two requests, of which the first one is answered before the client is closed. -/
theorem correlated_run_two :
    let events : List Event := [.turns .connected, .begins (.updateReported {}), .begins .getTwin,
      .steps 0, .steps 1, .steps 0, .steps 1, .arrives "$iothub/twin/res/204/?$rid=1" [],
      .begins .close, .steps 0, .steps 2, .steps 1]
    let uplink := fresh ⟨"sensor", none, by decide, nofun⟩ {} ⟨[(⟨"#", [.multi]⟩, .twinResponses)]⟩
    events.countP Event.isRequest < Word.count64 ∧ Correlated uplink events ∧
      (uplink.run events).members = [.ended (.done (.ok ())),
        .ended (.twin (.error .notConnected)), .ended (.done (.ok ()))] :=
  ⟨by decide, correlated_run _ _ _ _ (by decide), rfl⟩

end Uplink

end DeviceGateway
