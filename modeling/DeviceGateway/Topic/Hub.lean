/-
# Topics of the hub

How a session talks to the hub: the topics under which it publishes telemetry, twin requests and
method responses, the filters it subscribes to, and what the topics of the hub's own messages say.
Requests and their answers are paired by a request identifier in the query at the end of a topic.
-/

import DeviceGateway.Fault
import DeviceGateway.Identity
import DeviceGateway.Topic.Bag

namespace DeviceGateway.Topic.Hub

/-! ## Filters a session subscribes to -/

/-- Answers to twin requests. -/
def twinResponses : String := "$iothub/twin/res/#"

/-- Patches to the desired section of the twin. -/
def desiredPatches : String := "$iothub/twin/PATCH/properties/desired/#"

/-- Requests to run a method. -/
def methodRequests : String := "$iothub/methods/POST/#"

/-- Messages to a device. -/
def deviceMessages (identity : Identity) : String :=
  "devices/" ++ identity.device ++ "/messages/devicebound/#"

/-! ## Topics a session publishes under -/

/-- The beginning of the telemetry topics of an identity. -/
def origin (identity : Identity) : String :=
  match identity.module? with
  | some name => "devices/" ++ identity.device ++ "/modules/" ++ name
  | none => "devices/" ++ identity.device

/-- The topic of a telemetry message, which ends in the properties of the message. -/
def telemetry (identity : Identity) (message : HubMessage) : String :=
  origin identity ++ "/messages/events/" ++ Bag.encode message

/-- The topic of a request for the twin. -/
def twinRequest (requestId : String) : String := "$iothub/twin/GET/?$rid=" ++ requestId

/-- The topic of a patch to the reported section of the twin. -/
def reportedPatch (requestId : String) : String :=
  "$iothub/twin/PATCH/properties/reported/?$rid=" ++ requestId

/-- The topic of the response to a method request. -/
def methodResponse (status : Int) (requestId : String) : String :=
  "$iothub/methods/res/" ++ Numeral.ofInt status ++ "/?$rid=" ++ requestId

/-! ## What the topics of the hub say -/

/-- The value of a parameter in a query: of the first pair with that name.  A question mark at the
start is skipped, and so is a pair without an equals sign. -/
def parameter? (query : List Char) (name : String) : Option (List Char) :=
  let pairs := match query with
    | '?' :: rest => rest
    | _ => query
  ((Text.splitAll '&' pairs).filterMap (Text.splitFirst '=')).findSome? fun pair =>
    if pair.1 = name.toList then some pair.2 else none

/-- What the topic of an answer to a twin request says. -/
structure TwinResponse where
  /-- The status of the answer. -/
  status : Nat
  /-- The request that is answered. -/
  requestId : String
  /-- The version of the section that was patched. -/
  version : Option Int
deriving DecidableEq, Repr

/-- Read the topic of an answer to a twin request. -/
def parseTwinResponse? (topic : String) : Option TwinResponse := do
  let rest ← Text.afterStart "$iothub/twin/res/".toList topic.toList
  let (status, query) ← Text.splitFirst '/' rest
  let status ← Numeral.natural? 65535 status
  let requestId ← parameter? query "$rid"
  let version := (parameter? query "$version").bind Numeral.integer?
  return { status, requestId := String.ofList requestId, version }

/-- Read the topic of a method request: the name of the method, which is not empty, and the
identifier of the request. -/
def parseMethodRequest? (topic : String) : Option (String × String) := do
  let rest ← Text.afterStart "$iothub/methods/POST/".toList topic.toList
  let (name, query) ← Text.splitFirst '/' rest
  if name.isEmpty then none
  else
    let requestId ← parameter? query "$rid"
    return (String.ofList name, String.ofList requestId)

/-- The version in the topic of a patch to the desired section. -/
def parseDesiredVersion? (topic : String) : Option Int := do
  let query ← Text.afterStart "$iothub/twin/PATCH/properties/desired/".toList topic.toList
  (parameter? query "$version").bind Numeral.integer?

/-- The message that the hub published to a device. -/
def parseDeviceMessage (topic : String) (payload : Bytes) : Answer HubMessage :=
  match Text.afterPart "/messages/devicebound/".toList topic.toList with
  | some bag => .ok (Bag.toMessage payload bag)
  | none => .error (.invalidMessageFormat ("not a cloud-to-device topic: " ++ topic))

end DeviceGateway.Topic.Hub
