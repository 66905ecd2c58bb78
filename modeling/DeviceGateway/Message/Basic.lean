/-
# Messages

The messages that pass through a session.  A local message is a body with two maps of texts: the
properties of the application, and the system properties under well-known names.  A hub message has a
field for each well-known property instead.  A twin is the document that the hub keeps for an
identity; it has a desired and a reported section.
-/

import DeviceGateway.Json.Printer
import DeviceGateway.Json.Record
import DeviceGateway.Time.Timestamp

namespace DeviceGateway

namespace SystemProperty

/-! The names of the well-known system properties. -/

def messageId : String := "messageId"
def lockToken : String := "lockToken"
def correlationId : String := "correlationId"
def contentType : String := "contentType"
def contentEncoding : String := "contentEncoding"
def enqueuedTime : String := "enqueuedTime"
def version : String := "version"

end SystemProperty

/-- A local message. -/
structure Message where
  /-- The body, which is never interpreted on the way. -/
  body : Bytes := []
  /-- The properties of the application. -/
  properties : TextMap String := .empty
  /-- The system properties. -/
  system : TextMap String := .empty
deriving DecidableEq, Inhabited

namespace Message

/-- The token under which the hub expects feedback on a message. -/
def lockToken? (message : Message) : Option String := message.system.get? SystemProperty.lockToken

end Message

/-- A message as the hub sends and receives it. -/
structure HubMessage where
  /-- The body. -/
  body : Bytes := []
  /-- The properties of the application. -/
  properties : TextMap String := .empty
  messageId : Option String := none
  /-- The token that the hub expects back with feedback. -/
  lockToken : Option String := none
  correlationId : Option String := none
  contentType : Option String := none
  contentEncoding : Option String := none
  enqueuedTime : Option Time.Instant := none
deriving DecidableEq, Inhabited

/-- A section of a twin, or a patch to one. -/
structure PropertySet where
  /-- The properties. -/
  members : Json.Object := .empty

namespace PropertySet

instance : Inhabited PropertySet := ⟨{}⟩

/-- The name under which the hub keeps the version of a section. -/
def versionKey : String := "$version"

/-- The version of a section, if the hub gave one that is a whole number. -/
def version? (properties : PropertySet) : Option Int :=
  (properties.members.get? versionKey).bind Json.Value.asInt64?

/-- Give a section a version unless it has one. -/
def withVersion (properties : PropertySet) (version : Int) : PropertySet :=
  match properties.members.get? versionKey with
  | some _ => properties
  | none => ⟨properties.members.insert versionKey (.ofInt version)⟩

/-- The JSON form of a section. -/
def toJson (properties : PropertySet) : Json.Value := .ofObject properties.members

/-- The JSON form of a section is an object with any members. -/
def shape : Json.Shape PropertySet := fun part =>
  (Json.Shape.object part).map fun members => ⟨members⟩

end PropertySet

/-- The document that the hub keeps for an identity. -/
structure Twin where
  /-- What the hub wants. -/
  desired : PropertySet := {}
  /-- What the device reports. -/
  reported : PropertySet := {}

namespace Twin

instance : Inhabited Twin := ⟨{}⟩

/-- The JSON form of a twin. -/
def toJson (twin : Twin) : Json.Value :=
  .object [("desired", twin.desired.toJson), ("reported", twin.reported.toJson)]

/-- The JSON form of a twin is a record whose sections are empty where they are missing. -/
def shape : Json.Shape Twin := fun part => do
  let given ← Json.Shape.fields ["desired", "reported"] part
  let desired ← given.get "desired" PropertySet.shape {}
  let reported ← given.get "reported" PropertySet.shape {}
  return { desired, reported }

end Twin

/-- A request of the hub to run a method. -/
structure MethodRequest where
  /-- The name of the method. -/
  name : String
  /-- The identifier under which the hub expects the response. -/
  requestId : String
  payload : Bytes
deriving DecidableEq, Repr

/-- The response to a request to run a method. -/
structure MethodResponse where
  /-- The status, which is zero or more or negative as the device likes. -/
  status : Int
  payload : Bytes
deriving DecidableEq, Repr

/-- A method call as a listener sees it. -/
structure MethodCall where
  /-- The identifier of the request. -/
  correlationId : String
  /-- The text of the identity that is called. -/
  target : String
  method : String
  payload : Bytes
  /-- How long to wait for the response, in milliseconds. -/
  responseTimeout : Nat := 30000
  /-- How long to wait for the device, in milliseconds. -/
  connectTimeout : Nat := 0
deriving DecidableEq, Repr

/-- The call that a listener gets for a request of the hub to the identity with the text `target`. -/
def MethodRequest.toCall (request : MethodRequest) (target : String) : MethodCall where
  correlationId := request.requestId
  target
  method := request.name
  payload := request.payload

/-- What a listener answers to a method call: the answer of the device, or why there is none. -/
inductive MethodAnswer where
  /-- The device answered with a status and data. -/
  | device (status : Int) (data : Bytes)
  /-- There is no answer of the device; the reason comes with an HTTP status. -/
  | failure (httpStatus : Nat) (reason : String)
deriving DecidableEq, Repr

namespace MethodAnswer

/-- The HTTP status of an answer; that of an answer of the device is 200. -/
def httpStatus : MethodAnswer → Nat
  | device _ _ => 200
  | failure status _ => status

/-- Whether the device answered and the HTTP status is one of success. -/
def isSuccess : MethodAnswer → Bool
  | device _ _ => true
  | failure _ _ => false

/-- The body that carries a failure to the hub. -/
def failureBody (reason : String) : Bytes :=
  (Json.Value.object [("message", .text reason)]).toBytes

/-- The response to the hub: an answer of the device passes through, a failure has its HTTP status
and its reason in a JSON body. -/
def response : MethodAnswer → MethodResponse
  | device status data => ⟨status, data⟩
  | failure status reason => ⟨status, failureBody reason⟩

end MethodAnswer

end DeviceGateway
