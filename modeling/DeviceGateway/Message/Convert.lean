/-
# Conversions between messages

A hub message and a local message carry the same things in fields and under names.  A twin and a patch
become messages with their compact JSON text as body.  Reading a message back refuses a time of
enqueueing that is no time stamp, a twin that is no twin document and a patch that is no JSON
object.

The parts of a fault that describe where a text stops being a document or a time stamp are not kept;
such a fault ends after its colon.
-/

import DeviceGateway.Fault
import DeviceGateway.Message.Basic

namespace DeviceGateway

namespace HubMessage

/-- The local message of a hub message. -/
def toMessage (message : HubMessage) : Message where
  body := message.body
  properties := message.properties
  system :=
    (((((TextMap.empty.insert? SystemProperty.messageId message.messageId).insert?
      SystemProperty.lockToken message.lockToken).insert?
      SystemProperty.correlationId message.correlationId).insert?
      SystemProperty.contentType message.contentType).insert?
      SystemProperty.contentEncoding message.contentEncoding).insert?
      SystemProperty.enqueuedTime (message.enqueuedTime.map Time.Instant.toText)

/-- The fault of a time of enqueueing that is no time stamp. -/
def enqueuedTimeFault (raw : String) : Fault :=
  .invalidMessageFormat ("invalid enqueued time '" ++ raw ++ "': ")

/-- The time of enqueueing of a local message, if it has one. -/
def enqueuedTimeOf (message : Message) : Answer (Option Time.Instant) :=
  match message.system.get? SystemProperty.enqueuedTime with
  | none => .ok none
  | some raw =>
    match Time.Timestamp.parse? raw with
    | some instant => .ok (some instant)
    | none => .error (enqueuedTimeFault raw)

/-- The hub message of a local message. -/
def ofMessage (message : Message) : Answer HubMessage :=
  match enqueuedTimeOf message with
  | .error fault => .error fault
  | .ok enqueuedTime => .ok
    { body := message.body
      properties := message.properties
      messageId := message.system.get? SystemProperty.messageId
      lockToken := message.system.get? SystemProperty.lockToken
      correlationId := message.system.get? SystemProperty.correlationId
      contentType := message.system.get? SystemProperty.contentType
      contentEncoding := message.system.get? SystemProperty.contentEncoding
      enqueuedTime }

/-- The hub messages of local messages; the first fault counts. -/
def ofMessages : List Message → Answer (List HubMessage)
  | [] => .ok []
  | message :: rest =>
    match ofMessage message with
    | .error fault => .error fault
    | .ok first =>
      match ofMessages rest with
      | .error fault => .error fault
      | .ok more => .ok (first :: more)

end HubMessage

/-- The content type of a message with a JSON body. -/
def jsonContentType : String := "application/json"

namespace Twin

/-- The message of a twin; `stamp` is the text of the present time. -/
def toMessage (twin : Twin) (stamp : String) : Message where
  body := twin.toJson.toBytes
  system :=
    ((TextMap.empty.insert SystemProperty.contentType jsonContentType).insert
      SystemProperty.enqueuedTime stamp).insert?
      SystemProperty.version (twin.reported.version?.map Numeral.ofInt)

/-- The twin in the body of a message. -/
def ofMessage (message : Message) : Answer Twin :=
  match Twin.shape.read? message.body with
  | some twin => .ok twin
  | none => .error (.invalidMessageFormat "twin body is not a twin document: ")

end Twin

namespace PropertySet

/-- The message of a patch. -/
def toMessage (patch : PropertySet) : Message where
  body := patch.toJson.toBytes
  system :=
    (TextMap.empty.insert SystemProperty.contentType jsonContentType).insert?
      SystemProperty.version (patch.version?.map Numeral.ofInt)

/-- The patch in the body of a message. -/
def ofMessage (message : Message) : Answer PropertySet :=
  match Utf8.decode? message.body with
  | none => .error (.invalidMessageFormat "reported properties are not UTF-8: ")
  | some _ =>
    match Json.Value.read? message.body with
    | none => .error (.invalidMessageFormat "reported properties are not valid JSON: ")
    | some document =>
      match document.asObject? with
      | some members => .ok ⟨members⟩
      | none => .error (.invalidMessageFormat
          ("reported properties must be a JSON object, got " ++ document.kind))

end PropertySet

end DeviceGateway
