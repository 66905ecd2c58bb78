/-
# Runs of a client of the hub

Any number of calls are under way on one client at the same time, while publications of the hub arrive
and the connection comes and goes.  A call goes on when it can; only when it cannot may its time be up.

Twin requests share a desk with each other and with the publications that arrive: the number of the next
request, the identifiers that wait and the answers that were not yet taken.  What each move of a call
does at the desk is said once here, and everything else leaves it alone.
-/

import DeviceGateway.Proofs.Crew
import DeviceGateway.Uplink.Calls
import DeviceGateway.Uplink.Inbound

namespace DeviceGateway

namespace Uplink

/-- A client whose connection has not come up yet. -/
def fresh (identity : Identity) (settings : Settings.Hub) (router : Topic.Router Destination) :
    Uplink :=
  { identity, settings, router }

/-- What can be seen of the calls and of what arrives. -/
inductive Note where
  | begun (call : ClientCall)
  /-- A twin request got its identifier. -/
  | registered (requestId : String)
  /-- A twin request was handed to a connection. -/
  | published (topic : String)
  /-- A publication of the hub arrived. -/
  | arrived (topic : String) (payload : Bytes)
  /-- A twin request took an answer. -/
  | took (reply : TwinReply)
  | ended (answer : ClientAnswer)

/-- A client with the calls that are under way. -/
abbrev Run := Crew Uplink Op ClientAnswer Note

/-- What becomes of the connection. -/
inductive Turn where
  | connected
  | lost (failure : String)
  | broken
  | refused (fault : Fault)
  | disconnected
  | enters (phase : Phase)
  | announces (status : ConnectionStatus) (reason : StatusReason)

/-- What happens in a run. -/
inductive Event where
  | begins (call : ClientCall)
  | steps (member : Nat)
  | timesOut (member : Nat)
  /-- Whoever receives a message gives up and does not look at the answer. -/
  | givesUp (member : Nat)
  | arrives (topic : String) (payload : Bytes)
  /-- The response to a method request is published. -/
  | responds (requestId : String) (response : MethodResponse)
  | turns (turn : Turn)

def onTurn (uplink : Uplink) : Turn → Uplink
  | .connected => uplink.connected
  | .lost failure => uplink.lost failure
  | .broken => uplink.breakConnection
  | .refused fault => uplink.refuse fault
  | .disconnected => uplink.disconnected
  | .enters phase => uplink.enter phase
  | .announces status reason => uplink.announce status reason

/-- What can be seen of a call as it moves on from a position. -/
def seen (uplink : Uplink) : Op → List Note
  | .begin .getTwin | .begin (.updateReported _) => [.registered (Numeral.ofNat uplink.nextRequest)]
  | .publishing request requestId =>
    match (uplink.publish (request.topic requestId) request.payload).2 with
    | .ok _ => [.published (request.topic requestId)]
    | .error _ => []
  | .awaiting _ requestId => ((uplink.reply? requestId).map Note.took).toList
  | _ => []

/-- What can be seen of how a move ends. -/
def endOf : Move Uplink Op ClientAnswer → List Note
  | .go _ _ => []
  | .done _ answer => [.ended answer]

def onStep (uplink : Uplink) (op : Op) : Option (Move Uplink Op ClientAnswer × List Note) :=
  if uplink.canStep op then some (uplink.step op, uplink.seen op ++ endOf (uplink.step op)) else none

def onTimeUp (uplink : Uplink) (op : Op) : Option (Move Uplink Op ClientAnswer × List Note) :=
  if !uplink.canStep op && (uplink.patience? op).isSome then
    some (uplink.timeUp op, uplink.seen op ++ endOf (uplink.timeUp op))
  else none

def onGivingUp (uplink : Uplink) (op : Op) : Option (Move Uplink Op ClientAnswer × List Note) :=
  match op with
  | .inLine _ _ | .receiving _ _ =>
    let move := .done (uplink.giveUp op) (.received (.ok none))
    some (move, uplink.seen op ++ endOf move)
  | _ => none

/-- A run after one more event. -/
def act (run : Run) : Event → Run
  | .begins call => run.enter (.begin call) [.begun call]
  | .steps member => run.advance member run.state.onStep
  | .timesOut member => run.advance member run.state.onTimeUp
  | .givesUp member => run.advance member run.state.onGivingUp
  | .arrives topic payload => run.drift (run.state.accept topic payload).1 [.arrived topic payload]
  | .responds requestId response => run.drift (run.state.respond requestId response) []
  | .turns turn => run.drift (run.state.onTurn turn) []

def onward (run : Run) (events : List Event) : Run := events.foldl act run

/-- The run of a client through a list of events. -/
def run (uplink : Uplink) (events : List Event) : Run := onward { state := uplink } events

theorem run_append (uplink : Uplink) (events more : List Event) :
    uplink.run (events ++ more) = onward (uplink.run events) more :=
  List.foldl_append

/-- A call that can go on does so when it is let. -/
theorem act_steps {run : Run} {member : Nat} {op : Op}
    (held : run.members[member]? = some (.running op)) (can : run.state.canStep op = true) :
    act run (.steps member) = run.follow member (run.state.step op)
      (run.state.seen op ++ endOf (run.state.step op)) := by
  simp only [act, Crew.advance, held, onStep, can, if_true]

theorem members_steps {run : Run} {member : Nat} {op : Op}
    (held : run.members[member]? = some (.running op)) (can : run.state.canStep op = true) :
    (act run (.steps member)).members[member]? = some (run.state.step op).progress := by
  rw [act_steps held can, Crew.member_follow_self held]

/-! ## The desk of the twin requests -/

/-- The twin request that a call makes. -/
def twinRequest? : ClientCall → Option TwinRequest
  | .getTwin => some .fetch
  | .updateReported patch => some (.report patch)
  | _ => none

/-- The identifier under which a call waits, or will wait, for an answer. -/
def Op.requestId? : Op → Option String
  | publishing _ requestId | abandoning _ requestId _ | awaiting _ requestId => some requestId
  | _ => none

/-- Whether a call is a twin request that has no identifier yet. -/
def Op.isNew : Op → Bool
  | begin call => (twinRequest? call).isSome
  | _ => false

/-- Whether a call receives a message. -/
def Op.isReceiving : Op → Bool
  | inLine _ _ | receiving _ _ => true
  | _ => false

def requestIdOf : Progress Op ClientAnswer → Option String
  | .running op => op.requestId?
  | .ended _ => none

def isNew : Progress Op ClientAnswer → Bool
  | .running op => op.isNew
  | .ended _ => false

/-- What lies on the desk of the twin requests is the same. -/
structure SameDesk (before after : Uplink) : Prop where
  identity : after.identity = before.identity
  nextRequest : after.nextRequest = before.nextRequest
  pending : after.pending = before.pending
  replies : after.replies = before.replies
  shutdown : after.gate.shutdown = before.gate.shutdown

theorem SameDesk.refl (uplink : Uplink) : SameDesk uplink uplink := ⟨rfl, rfl, rfl, rfl, rfl⟩

theorem sameDesk_publish (uplink : Uplink) (topic : String) (payload : Bytes) :
    SameDesk uplink (uplink.publish topic payload).1 := by
  unfold publish
  split
  case h_1 => exact .refl uplink
  case h_2 => split <;> exact ⟨rfl, rfl, rfl, rfl, rfl⟩

/-- Nothing is published by a client that is closed. -/
theorem shutdown_of_publish {uplink : Uplink} {topic : String} {payload : Bytes}
    (published : (uplink.publish topic payload).2 = .ok ()) : uplink.gate.shutdown = false := by
  unfold publish at published
  split at published
  case h_1 => cases published
  case h_2 connection passed => exact ((uplink.gate.pass_eq_ok_iff connection).1 passed).2.1

theorem sameDesk_respond (uplink : Uplink) (requestId : String) (response : MethodResponse) :
    SameDesk uplink (uplink.respond requestId response) :=
  sameDesk_publish ..

theorem sameDesk_onTurn (uplink : Uplink) (turn : Turn) : SameDesk uplink (uplink.onTurn turn) := by
  cases turn with
  | broken =>
    simp only [onTurn, breakConnection]
    split <;> exact ⟨rfl, rfl, rfl, rfl, rfl⟩
  | _ => exact ⟨rfl, rfl, rfl, rfl, rfl⟩

theorem sameDesk_enqueue (uplink : Uplink) (message : HubMessage) :
    SameDesk uplink (uplink.enqueue message) := by
  unfold enqueue
  split <;> exact ⟨rfl, rfl, rfl, rfl, rfl⟩

/-- What a publication of the hub does to the client: it may bring the answer to a request, or a
message. -/
theorem state_accept (uplink : Uplink) (topic : String) (payload : Bytes) :
    (uplink.accept topic payload).1 = uplink ∨
      (∃ response, Topic.Hub.parseTwinResponse? topic = some response ∧
        (uplink.accept topic payload).1 =
          uplink.deliverReply response.requestId ⟨response.status, response.version, payload⟩) ∨
      ∃ message, (uplink.accept topic payload).1 = uplink.enqueue message := by
  unfold accept
  split
  case h_1 destination _ =>
    cases destination with
    | twinResponses =>
      simp only [acceptFor]
      split
      case h_1 response parsed => exact .inr (.inl ⟨response, parsed, rfl⟩)
      case h_2 => exact .inl rfl
    | desiredPatches | methodRequests =>
      simp only [acceptFor]
      split <;> exact .inl rfl
    | deviceMessages =>
      simp only [acceptFor]
      split
      case h_1 message _ => exact .inr (.inr ⟨message, rfl⟩)
      case h_2 => exact .inl rfl
  case h_2 => exact .inl rfl

/-- What a publication of the hub does at the desk: it may bring the answer to a request. -/
theorem accept_cases (uplink : Uplink) (topic : String) (payload : Bytes) :
    SameDesk uplink (uplink.accept topic payload).1 ∨ ∃ response,
      Topic.Hub.parseTwinResponse? topic = some response ∧
        (uplink.accept topic payload).1 =
          uplink.deliverReply response.requestId ⟨response.status, response.version, payload⟩ := by
  rcases state_accept uplink topic payload with same | answer | ⟨message, queued⟩
  · rw [same]
    exact .inl (.refl uplink)
  · exact .inr answer
  · rw [queued]
    exact .inl (sameDesk_enqueue uplink message)

/-- What a move of a call does at the desk. -/
inductive DeskMove (uplink : Uplink) : Op → List Note → Move Uplink Op ClientAnswer → Prop
  | register {call : ClientCall} {request : TwinRequest} (asks : twinRequest? call = some request) :
      DeskMove uplink (.begin call) [.registered (Numeral.ofNat uplink.nextRequest)]
        (uplink.register request)
  | publish {request : TwinRequest} {requestId : String} {state : Uplink}
      (opened : uplink.gate.shutdown = false) (same : SameDesk uplink state) :
      DeskMove uplink (.publishing request requestId) [.published (request.topic requestId)]
        (.go state (.awaiting request requestId))
  | fail {request : TwinRequest} {requestId : String} {state : Uplink} (fault : Fault)
      (same : SameDesk uplink state) :
      DeskMove uplink (.publishing request requestId) []
        (.go state (.abandoning request requestId fault))
  | abandon {request : TwinRequest} {requestId : String} {fault : Fault} :
      DeskMove uplink (.abandoning request requestId fault) []
        (.done (uplink.forget requestId) (request.refusal fault))
  | take {request : TwinRequest} {requestId : String} {reply : TwinReply}
      (arrived : uplink.reply? requestId = some reply) :
      DeskMove uplink (.awaiting request requestId) [.took reply]
        (.done (uplink.forget requestId) (uplink.conclude reply request))
  | refuse {request : TwinRequest} {requestId : String} (missing : uplink.reply? requestId = none)
      (gone : requestId ∉ uplink.pending) :
      DeskMove uplink (.awaiting request requestId) []
        (.done uplink (request.refusal .notConnected))
  | timeUp {request : TwinRequest} {requestId : String} {fault : Fault}
      (missing : uplink.reply? requestId = none) (waits : requestId ∈ uplink.pending) :
      DeskMove uplink (.awaiting request requestId) []
        (.done (uplink.forget requestId) (request.refusal fault))
  | close : DeskMove uplink (.begin .close) [] (.done uplink.close (.done (.ok ())))
  | aside {op : Op} {move : Move Uplink Op ClientAnswer} (before : op.requestId? = none)
      (old : op.isNew = false) (same : SameDesk uplink move.state)
      (after : requestIdOf move.progress = none) (begun : ∀ call, move.progress ≠ .running (.begin call)) :
      DeskMove uplink op [] move

/-- The moves that a call can make. -/
inductive Moves (uplink : Uplink) (op : Op) : Move Uplink Op ClientAnswer → Prop
  | step (can : uplink.canStep op = true) : Moves uplink op (uplink.step op)
  | timeUp (stuck : uplink.canStep op = false) (waits : (uplink.patience? op).isSome = true) :
      Moves uplink op (uplink.timeUp op)
  | givenUp (receives : op.isReceiving = true) :
      Moves uplink op (.done (uplink.giveUp op) (.received (.ok none)))

theorem moves_of_onStep {uplink : Uplink} {op : Op} {move : Move Uplink Op ClientAnswer}
    {notes : List Note} (allowed : uplink.onStep op = some (move, notes)) :
    Moves uplink op move ∧ notes = uplink.seen op ++ endOf move := by
  unfold onStep at allowed
  split at allowed
  case isTrue can =>
    obtain ⟨rfl, rfl⟩ := Prod.mk.inj (Option.some.inj allowed)
    exact ⟨.step can, rfl⟩
  case isFalse => cases allowed

theorem moves_of_onTimeUp {uplink : Uplink} {op : Op} {move : Move Uplink Op ClientAnswer}
    {notes : List Note} (allowed : uplink.onTimeUp op = some (move, notes)) :
    Moves uplink op move ∧ notes = uplink.seen op ++ endOf move := by
  unfold onTimeUp at allowed
  split at allowed
  case isTrue late =>
    obtain ⟨rfl, rfl⟩ := Prod.mk.inj (Option.some.inj allowed)
    obtain ⟨stuck, waits⟩ := Bool.and_eq_true_iff.1 late
    exact ⟨.timeUp (by simpa using stuck) waits, rfl⟩
  case isFalse => cases allowed

theorem moves_of_onGivingUp {uplink : Uplink} {op : Op} {move : Move Uplink Op ClientAnswer}
    {notes : List Note} (allowed : uplink.onGivingUp op = some (move, notes)) :
    Moves uplink op move ∧ notes = uplink.seen op ++ endOf move := by
  unfold onGivingUp at allowed
  split at allowed
  case h_1 | h_2 =>
    obtain ⟨rfl, rfl⟩ := Prod.mk.inj (Option.some.inj allowed)
    exact ⟨.givenUp rfl, rfl⟩
  case h_3 => cases allowed

/-- A move that has nothing to do with twin requests and ends the call. -/
theorem DeskMove.leaves {uplink state : Uplink} {op : Op} {answer : ClientAnswer}
    (before : op.requestId? = none) (old : op.isNew = false) (same : SameDesk uplink state) :
    DeskMove uplink op [] (.done state answer) :=
  .aside before old same rfl fun _ => nofun

theorem deskMove_start (uplink : Uplink) (call : ClientCall) :
    DeskMove uplink (.begin call) (uplink.seen (.begin call)) (uplink.start call) := by
  cases call with
  | getTwin | updateReported patch => exact .register rfl
  | send message | sendBatch messages => exact .aside rfl rfl (.refl uplink) rfl fun _ => nofun
  | feedback status messageId => cases status <;> exact .leaves rfl rfl (.refl uplink)
  | setCallback kind callback => cases kind <;> exact .leaves rfl rfl ⟨rfl, rfl, rfl, rfl, rfl⟩
  | receive timeout => exact .aside rfl rfl ⟨rfl, rfl, rfl, rfl, rfl⟩ rfl fun _ => nofun
  | close => exact .close

theorem deskMove_step {uplink : Uplink} {op : Op} (can : uplink.canStep op = true) :
    DeskMove uplink op (uplink.seen op) (uplink.step op) := by
  cases op with
  | begin call => exact deskMove_start uplink call
  | sending messages =>
    cases messages with
    | nil => exact .leaves rfl rfl (.refl uplink)
    | cons message rest =>
      have same := sameDesk_publish uplink (Topic.Hub.telemetry uplink.identity message) message.body
      simp only [step]
      split
      case h_1 state _ published =>
        rw [published] at same
        exact .aside rfl rfl same rfl fun _ => nofun
      case h_2 state _ published =>
        rw [published] at same
        exact .leaves rfl rfl same
  | publishing request requestId =>
    have same := sameDesk_publish uplink (request.topic requestId) request.payload
    rcases published : uplink.publish (request.topic requestId) request.payload with ⟨state, answer⟩
    rw [published] at same
    simp only [step, seen, published]
    cases answer with
    | ok _ => exact .publish (shutdown_of_publish (congrArg Prod.snd published)) same
    | error fault => exact .fail fault same
  | abandoning request requestId fault => exact .abandon
  | awaiting request requestId =>
    cases arrived : uplink.reply? requestId with
    | some reply =>
      simp only [step, seen, arrived]
      exact .take arrived
    | none =>
      have gone : requestId ∉ uplink.pending := by simpa [canStep, arrived] using can
      have absent : uplink.pending.contains requestId = false := by simpa using gone
      simp only [step, seen, arrived, absent]
      exact .refuse arrived gone
  | inLine ticket timeout =>
    simp only [step]
    split <;> exact .aside rfl rfl (.refl uplink) rfl fun _ => nofun
  | receiving ticket timeout =>
    simp only [step]
    split
    case isTrue => exact .leaves rfl rfl ⟨rfl, rfl, rfl, rfl, rfl⟩
    case isFalse =>
      split
      case h_1 => exact .leaves rfl rfl ⟨rfl, rfl, rfl, rfl, rfl⟩
      case h_2 => exact .aside rfl rfl (.refl uplink) rfl fun _ => nofun

theorem deskMove_timeUp {uplink : Uplink} {op : Op} (stuck : uplink.canStep op = false)
    (waits : (uplink.patience? op).isSome = true) :
    DeskMove uplink op (uplink.seen op) (uplink.timeUp op) := by
  cases op with
  | awaiting request requestId =>
    have missing : uplink.reply? requestId = none := by
      cases arrived : uplink.reply? requestId with
      | none => rfl
      | some reply => simp [canStep, arrived] at stuck
    have waits : requestId ∈ uplink.pending := by simpa [canStep, missing] using stuck
    simp only [seen, missing]
    exact .timeUp missing waits
  | receiving ticket timeout => exact .leaves rfl rfl ⟨rfl, rfl, rfl, rfl, rfl⟩
  | _ => cases waits

theorem deskMove_of_moves {uplink : Uplink} {op : Op} {move : Move Uplink Op ClientAnswer}
    (moved : Moves uplink op move) : DeskMove uplink op (uplink.seen op) move := by
  cases moved with
  | step can => exact deskMove_step can
  | timeUp stuck waits => exact deskMove_timeUp stuck waits
  | givenUp receives =>
    cases op with
    | inLine ticket timeout | receiving ticket timeout =>
      exact .leaves rfl rfl ⟨rfl, rfl, rfl, rfl, rfl⟩
    | _ => cases receives

/-- A call begins with nothing that is told later. -/
theorem DeskMove.begun_not_mem {uplink : Uplink} {op : Op} {told : List Note}
    {move : Move Uplink Op ClientAnswer} (moved : DeskMove uplink op told move)
    (call : ClientCall) :
    .begun call ∉ told ++ endOf move := by
  have ending : .begun call ∉ endOf move := by
    intro member
    cases move with
    | go state op => cases member
    | done state answer =>
      have same := List.mem_singleton.1 member
      cases same
  intro member
  rcases List.mem_append.1 member with early | late
  · cases moved <;> simp at early
  · exact ending late

/-- What is kept when a call begins, when one moves at the desk, when something arrives and when the
desk is left alone is kept by every event. -/
theorem act_induction {Holds : Run → Prop} {run : Run} {event : Event}
    (begins : ∀ call, event = .begins call → Holds (run.enter (.begin call) [.begun call]))
    (moves : ∀ member op told move, run.members[member]? = some (.running op) →
      DeskMove run.state op told move → Holds (run.follow member move (told ++ endOf move)))
    (arrives : ∀ topic payload, Holds
      (run.drift (run.state.accept topic payload).1 [.arrived topic payload]))
    (drifts : ∀ state, SameDesk run.state state → Holds (run.drift state []))
    (now : Holds run) : Holds (act run event) := by
  cases event with
  | begins call => exact begins call rfl
  | steps member =>
    apply Crew.advance_induction now
    intro op move notes held allowed
    obtain ⟨moved, rfl⟩ := moves_of_onStep allowed
    exact moves member op _ _ held (deskMove_of_moves moved)
  | timesOut member =>
    apply Crew.advance_induction now
    intro op move notes held allowed
    obtain ⟨moved, rfl⟩ := moves_of_onTimeUp allowed
    exact moves member op _ _ held (deskMove_of_moves moved)
  | givesUp member =>
    apply Crew.advance_induction now
    intro op move notes held allowed
    obtain ⟨moved, rfl⟩ := moves_of_onGivingUp allowed
    exact moves member op _ _ held (deskMove_of_moves moved)
  | arrives topic payload => exact arrives topic payload
  | responds requestId response => exact drifts _ (sameDesk_respond ..)
  | turns turn => exact drifts _ (sameDesk_onTurn ..)

end Uplink

end DeviceGateway
