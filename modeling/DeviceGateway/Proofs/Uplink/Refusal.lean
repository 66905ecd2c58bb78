/-
# A client whose credentials were refused

Once the hub has refused the credentials of a client, the gate lets nothing pass: whatever the calls, the
publications of the hub and the responses to method requests do, the outbox stays as it is.
-/

import DeviceGateway.Proofs.Supervisor.Run

namespace DeviceGateway

namespace Uplink

variable {uplink : Uplink} {fault : Fault} {topic : String} {payload : Bytes}

theorem publish_of_refusal (refused : uplink.gate.refusal = some fault) (topic : String)
    (payload : Bytes) : uplink.publish topic payload = (uplink, .error fault) := by
  simp only [publish, Gate.pass_of_refusal refused]

theorem outbox_enqueue (uplink : Uplink) (message : HubMessage) :
    (uplink.enqueue message).outbox = uplink.outbox := by
  unfold enqueue
  split <;> rfl

theorem outbox_deliverReply (uplink : Uplink) (requestId : String) (reply : TwinReply) :
    (uplink.deliverReply requestId reply).outbox = uplink.outbox := by
  unfold deliverReply
  split <;> rfl

theorem outbox_accept (uplink : Uplink) (topic : String) (payload : Bytes) :
    (uplink.accept topic payload).1.outbox = uplink.outbox := by
  rcases state_accept uplink topic payload with same | ⟨_, _, answer⟩ | ⟨message, queued⟩
  · rw [same]
  · rw [answer]
    exact outbox_deliverReply ..
  · rw [queued]
    exact outbox_enqueue uplink message

theorem outbox_close (uplink : Uplink) : uplink.close.outbox = uplink.outbox := by
  unfold close
  split <;> rfl

theorem outbox_start (uplink : Uplink) (call : ClientCall) :
    (uplink.start call).state.outbox = uplink.outbox := by
  cases call with
  | feedback status messageId => cases status <;> rfl
  | setCallback kind callback => cases kind <;> rfl
  | close => exact outbox_close uplink
  | getTwin | updateReported patch | send message | sendBatch messages | receive timeout => rfl

/-- What a call attempts to publish with its next step: the topic and the payload. -/
def attemptOf? (uplink : Uplink) : Op → Option (String × Bytes)
  | .sending (message :: _) => some (Topic.Hub.telemetry uplink.identity message, message.body)
  | .publishing request requestId => some (request.topic requestId, request.payload)
  | _ => none

/-- The fault with which a call has failed.  A twin request that could not be published ends with its
next step. -/
def faultOf? : Progress Op ClientAnswer → Option Fault
  | .running (.abandoning _ _ fault) => some fault
  | .running _ => none
  | .ended answer =>
    match answer.outcome with
    | .error fault => some fault
    | .ok _ => none

/-- A step with which a call attempts to publish does nothing else to the client, and the call meets the
fault of the attempt if it fails. -/
theorem step_of_attempt {op : Op} (attempt : attemptOf? uplink op = some (topic, payload)) :
    (uplink.step op).state = (uplink.publish topic payload).1 ∧
      faultOf? (uplink.step op).progress =
        match (uplink.publish topic payload).2 with
        | .ok _ => none
        | .error fault => some fault := by
  cases op with
  | sending messages =>
    cases messages with
    | nil => cases attempt
    | cons message rest =>
      obtain ⟨rfl, rfl⟩ := Prod.mk.inj (Option.some.inj attempt)
      simp only [step]
      split <;> (rename_i published; rw [published]; exact ⟨rfl, rfl⟩)
  | publishing request requestId =>
    obtain ⟨rfl, rfl⟩ := Prod.mk.inj (Option.some.inj attempt)
    simp only [step]
    split <;> (rename_i published; rw [published]; exact ⟨rfl, rfl⟩)
  | _ => cases attempt

/-- The other steps publish nothing. -/
theorem outbox_step_of_none {op : Op} (none : attemptOf? uplink op = none) :
    (uplink.step op).state.outbox = uplink.outbox := by
  cases op with
  | begin call => exact outbox_start uplink call
  | sending messages =>
    cases messages with
    | nil => rfl
    | cons message rest => cases none
  | publishing request requestId => cases none
  | abandoning request requestId fault => rfl
  | awaiting request requestId =>
    simp only [step]
    split <;> [rfl; (split <;> rfl)]
  | inLine ticket timeout =>
    simp only [step]
    split <;> rfl
  | receiving ticket timeout =>
    simp only [step]
    split <;> [rfl; (split <;> rfl)]

/-- No call publishes anything through a client whose credentials were refused. -/
theorem outbox_step_of_refusal (refused : uplink.gate.refusal = some fault) (op : Op) :
    (uplink.step op).state.outbox = uplink.outbox := by
  cases attempt : attemptOf? uplink op with
  | none => exact outbox_step_of_none attempt
  | some published => rw [(step_of_attempt attempt).1, publish_of_refusal refused]

theorem outbox_timeUp (uplink : Uplink) (op : Op) : (uplink.timeUp op).state.outbox = uplink.outbox := by
  cases op <;> rfl

/-- What happens to a client besides the steps of its supervisor: nothing that the supervisor has said
is changed, and nothing is published once the credentials were refused. -/
structure Silent (before after : Uplink) : Prop where
  aside : Aside before after
  outbox : before.gate.refusal.isSome = true → after.outbox = before.outbox

theorem Silent.refl (uplink : Uplink) : Silent uplink uplink := ⟨.refl uplink, fun _ => rfl⟩

theorem silent_step (uplink : Uplink) (op : Op) : Silent uplink (uplink.step op).state where
  aside := aside_step uplink op
  outbox := by
    intro refused
    obtain ⟨fault, refused⟩ := Option.isSome_iff_exists.1 refused
    exact outbox_step_of_refusal refused op

theorem silent_timeUp (uplink : Uplink) (op : Op) : Silent uplink (uplink.timeUp op).state :=
  ⟨aside_timeUp uplink op, fun _ => outbox_timeUp uplink op⟩

theorem silent_giveUp (uplink : Uplink) (op : Op) : Silent uplink (uplink.giveUp op) where
  aside := aside_giveUp uplink op
  outbox := by
    intro _
    cases op <;> rfl

theorem silent_of_moves {op : Op} {move : Move Uplink Op ClientAnswer}
    (moved : Moves uplink op move) : Silent uplink move.state := by
  cases moved with
  | step can => exact silent_step uplink op
  | timeUp stuck waits => exact silent_timeUp uplink op
  | givenUp receives => exact silent_giveUp uplink op

theorem silent_accept (uplink : Uplink) (topic : String) (payload : Bytes) :
    Silent uplink (uplink.accept topic payload).1 :=
  ⟨aside_accept .., fun _ => outbox_accept ..⟩

theorem silent_respond (uplink : Uplink) (requestId : String) (response : MethodResponse) :
    Silent uplink (uplink.respond requestId response) where
  aside := aside_publish ..
  outbox := by
    intro refused
    obtain ⟨fault, refused⟩ := Option.isSome_iff_exists.1 refused
    simp only [respond, publish_of_refusal refused]

theorem silent_breakConnection (uplink : Uplink) : Silent uplink uplink.breakConnection where
  aside := aside_breakConnection uplink
  outbox := by
    intro _
    unfold breakConnection
    split <;> rfl

theorem silent_close (uplink : Uplink) : Silent uplink uplink.close :=
  ⟨aside_close uplink, fun _ => outbox_close uplink⟩

end Uplink

end DeviceGateway
