/-
# Hub messages as local messages

The fields of a hub message are system properties of the local message, and come back from there.  Two
things are not exact.  The time of enqueueing is written with milliseconds, so what is below them is
lost; and a year that has a sign when it is written is refused when it is read.  In the other
direction a local message may write its time in many ways, and comes back with the same instant
written in one.
-/

import DeviceGateway.Message.Convert
import DeviceGateway.Proofs.Entries
import DeviceGateway.Proofs.Time.Timestamp

namespace DeviceGateway

namespace HubMessage

open Time

/-- The system properties that are fields of a hub message and plain texts. -/
def textual : List String :=
  [SystemProperty.messageId, SystemProperty.lockToken, SystemProperty.correlationId,
    SystemProperty.contentType, SystemProperty.contentEncoding]

/-- The system property that comes from the fields of a hub message under a name. -/
def field? (message : HubMessage) (name : String) : Option String :=
  if name = SystemProperty.enqueuedTime then message.enqueuedTime.map Instant.toText
  else if name = SystemProperty.contentEncoding then message.contentEncoding
  else if name = SystemProperty.contentType then message.contentType
  else if name = SystemProperty.correlationId then message.correlationId
  else if name = SystemProperty.lockToken then message.lockToken
  else if name = SystemProperty.messageId then message.messageId
  else none

theorem get?_system_toMessage (message : HubMessage) (name : String) :
    message.toMessage.system.get? name = message.field? name := by
  simp only [toMessage]
  rw [TextMap.get?_insert?, TextMap.get?_insert?, TextMap.get?_insert?, TextMap.get?_insert?,
    TextMap.get?_insert?, TextMap.get?_insert?, TextMap.get?_empty]
  · rfl
  -- Each name is free where its property is put.
  all_goals simp (disch := decide) only [TextMap.get?_insert?_of_ne, TextMap.get?_empty]

/-- The message without what is below the millisecond of its time. -/
def truncated (message : HubMessage) : HubMessage :=
  { message with enqueuedTime := message.enqueuedTime.map Instant.truncateToMillis }

/-- The time of a message, if it has one, lies in a year of four digits. -/
def HasPlainYear (message : HubMessage) : Prop :=
  ∀ instant ∈ message.enqueuedTime, 0 ≤ instant.date.year ∧ instant.date.year ≤ 9999

theorem ofMessage_of_time {message : Message} {time : Option Instant}
    (read : enqueuedTimeOf message = .ok time) :
    ofMessage message = .ok
      { body := message.body
        properties := message.properties
        messageId := message.system.get? SystemProperty.messageId
        lockToken := message.system.get? SystemProperty.lockToken
        correlationId := message.system.get? SystemProperty.correlationId
        contentType := message.system.get? SystemProperty.contentType
        contentEncoding := message.system.get? SystemProperty.contentEncoding
        enqueuedTime := time } := by
  rw [ofMessage, read]

/-- A hub message comes back but for what is below the millisecond of its time, unless the year is
written with a sign. -/
theorem ofMessage_toMessage {message : HubMessage} (plain : message.HasPlainYear) :
    ofMessage message.toMessage = .ok message.truncated := by
  have read : enqueuedTimeOf message.toMessage =
      .ok (message.enqueuedTime.map Instant.truncateToMillis) := by
    rw [enqueuedTimeOf, get?_system_toMessage]
    cases time : message.enqueuedTime with
    | none => simp [field?, time]
    | some instant =>
      obtain ⟨low, high⟩ := plain instant time
      simp [field?, time, Instant.parse?_toText low high]
  rw [ofMessage_of_time read]
  simp only [get?_system_toMessage]
  rfl

/-- A time in a year that is written with a sign is refused. -/
theorem ofMessage_toMessage_of_not {message : HubMessage} (signed : ¬ message.HasPlainYear) :
    ∃ instant ∈ message.enqueuedTime,
      ofMessage message.toMessage = .error (enqueuedTimeFault instant.toText) := by
  simp only [HasPlainYear, not_forall] at signed
  obtain ⟨instant, time, outside⟩ := signed
  refine ⟨instant, time, ?_⟩
  have read : enqueuedTimeOf message.toMessage = .error (enqueuedTimeFault instant.toText) := by
    rw [enqueuedTimeOf, get?_system_toMessage]
    simp [field?, Option.mem_def.1 time, Instant.parse?_toText_eq_none outside]
  rw [ofMessage, read]

/-- What a local message keeps when it becomes a hub message and a local message again. -/
structure Carries (message back : Message) : Prop where
  body : back.body = message.body
  properties : back.properties = message.properties
  textual : ∀ name ∈ textual, back.system.get? name = message.system.get? name
  /-- A time comes back if there was one, and denotes the same instant, truncated to milliseconds. -/
  enqueuedTime : Option.Rel
    (fun raw text => ∃ instant, Means raw instant ∧ Means text instant.truncateToMillis)
    (message.system.get? SystemProperty.enqueuedTime)
    (back.system.get? SystemProperty.enqueuedTime)
  /-- No other name has a property. -/
  others : ∀ name ∉ SystemProperty.enqueuedTime :: HubMessage.textual, back.system.get? name = none

/-- A time that was read is written as the same instant, truncated to milliseconds. -/
theorem means_of_enqueuedTimeOf {message : Message} {time : Option Instant}
    (read : enqueuedTimeOf message = .ok time) :
    Option.Rel (fun raw text => ∃ instant, Means raw instant ∧ Means text instant.truncateToMillis)
      (message.system.get? SystemProperty.enqueuedTime) (time.map Instant.toText) := by
  unfold enqueuedTimeOf at read
  split at read
  case h_1 absent =>
    cases read
    rw [absent]
    exact .none
  case h_2 raw given =>
    split at read
    case h_1 instant found =>
      cases read
      rw [given]
      exact .some ⟨instant, (Timestamp.denotes_of_parse? found).means, instant.denotes_toText.means⟩
    case h_2 => cases read

theorem carries_of_ofMessage {message : Message} {hub : HubMessage}
    (read : ofMessage message = .ok hub) : Carries message hub.toMessage := by
  cases found : enqueuedTimeOf message with
  | error fault =>
    rw [ofMessage, found] at read
    cases read
  | ok time =>
    rw [ofMessage_of_time found] at read
    cases read
    constructor
    case body => rfl
    case properties => rfl
    case textual =>
      intro name member
      rw [get?_system_toMessage]
      simp only [HubMessage.textual, List.mem_cons, List.not_mem_nil, or_false] at member
      rcases member with rfl | rfl | rfl | rfl | rfl <;> rfl
    case enqueuedTime =>
      rw [get?_system_toMessage]
      exact means_of_enqueuedTimeOf found
    case others =>
      intro name absent
      rw [get?_system_toMessage]
      simp only [HubMessage.textual, List.mem_cons, not_or] at absent
      simp [field?, absent]

/-- A conversion to a local message and back, from both ends.  A hub message comes back but for what is
below the millisecond of its time, or is refused if the year of its time is written with a sign.  A
local message that is accepted comes back with its body, its properties and the textual system
properties, its time denotes the same instant, truncated to milliseconds, and there is nothing else. -/
theorem converted_back :
    (∀ hub : HubMessage,
      (hub.HasPlainYear → ofMessage hub.toMessage = .ok hub.truncated) ∧
      (¬ hub.HasPlainYear → ∃ instant ∈ hub.enqueuedTime,
        ofMessage hub.toMessage = .error (enqueuedTimeFault instant.toText))) ∧
    ∀ (message : Message) (hub : HubMessage), ofMessage message = .ok hub →
      Carries message hub.toMessage :=
  ⟨fun _ => ⟨ofMessage_toMessage, ofMessage_toMessage_of_not⟩, fun _ _ => carries_of_ofMessage⟩

/-- A message whose time of enqueueing is a leap second, written with a small letter, ten digits after
the second and an offset that leads to the day before. -/
def lateMessage : Message where
  system := TextMap.empty.insert SystemProperty.enqueuedTime "2017-01-01t05:29:60.9999999999+05:30"

/-- The second half of `converted_back` speaks of such a message. -/
theorem converted_back_late : ∃ hub, ofMessage lateMessage = .ok hub ∧
    Carries lateMessage hub.toMessage ∧
      hub.toMessage.system.get? SystemProperty.enqueuedTime = some "2016-12-31T23:59:60.999Z" := by
  have time : enqueuedTimeOf lateMessage =
      .ok (some ⟨1483228799, 1999999999, by decide, by decide⟩) := by decide +kernel
  have read := ofMessage_of_time time
  refine ⟨_, read, converted_back.2 _ _ read, ?_⟩
  rw [get?_system_toMessage]
  decide +kernel

end HubMessage

end DeviceGateway
