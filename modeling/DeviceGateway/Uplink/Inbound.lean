/-
# Publications of the hub

What a client does with a publication of the hub.  The router says whose it is; an answer to a twin
request is kept for the request, and a message goes into the queue.  A patch and a method request lead
to a job of their own, which uses the callback that is installed when the publication arrives.  A method
request is answered whether or not there is a callback.
-/

import DeviceGateway.Uplink.Basic

namespace DeviceGateway.Uplink

/-- A job that a publication leads to. -/
inductive Job where
  /-- The callback is handling a patch. -/
  | handing (callback : Callback) (patch : PropertySet)
  /-- The callback is running a method. -/
  | running (callback : Callback) (request : MethodRequest)
  /-- The response to a method request is to be published. -/
  | responding (requestId : String) (response : MethodResponse)

/-- The fault of a topic that does not say what its filter promises. -/
def topicFault (topic : String) : Fault :=
  .invalidMessageFormat ("unexpected topic '" ++ topic ++ "'")

/-- The fault of a patch that is no JSON object. -/
def patchFault : Fault := .invalidMessageFormat "Failed to parse desired property patch: "

/-- The response to a method request when there is no callback. -/
def notImplemented (name : String) : MethodResponse :=
  ⟨501, MethodAnswer.failureBody ("method '" ++ name ++ "' is not implemented")⟩

/-- The job of answering a method request. -/
def methodJob (callback : Option Callback) (request : MethodRequest) : Job :=
  match callback with
  | some callback => .running callback request
  | none => .responding request.requestId (notImplemented request.name)

/-- The patch of a publication, with the version of the topic unless it has one itself. -/
def patchOf (topic : String) (payload : Bytes) : Answer PropertySet :=
  match PropertySet.shape.read? payload with
  | none => .error patchFault
  | some patch =>
    match Topic.Hub.parseDesiredVersion? topic with
    | some version => .ok (patch.withVersion version)
    | none => .ok patch

/-- Take a publication that is meant for a destination. -/
def acceptFor (uplink : Uplink) (destination : Destination) (topic : String) (payload : Bytes) :
    Uplink × Answer (Option Job) :=
  match destination with
  | .twinResponses =>
    match Topic.Hub.parseTwinResponse? topic with
    | some response =>
      (uplink.deliverReply response.requestId ⟨response.status, response.version, payload⟩, .ok none)
    | none => (uplink, .error (topicFault topic))
  | .desiredPatches =>
    match patchOf topic payload with
    | .ok patch => (uplink, .ok (uplink.onDesired.map fun callback => .handing callback patch))
    | .error fault => (uplink, .error fault)
  | .methodRequests =>
    match Topic.Hub.parseMethodRequest? topic with
    | some (name, requestId) =>
      (uplink, .ok (some (methodJob uplink.onMethod { name, requestId, payload })))
    | none => (uplink, .error (topicFault topic))
  | .deviceMessages =>
    match Topic.Hub.parseDeviceMessage topic payload with
    | .ok message => (uplink.enqueue message, .ok none)
    | .error fault => (uplink, .error fault)

/-- Take a publication.  One that no filter matches is ignored. -/
def accept (uplink : Uplink) (topic : String) (payload : Bytes) : Uplink × Answer (Option Job) :=
  match uplink.router.route topic with
  | some destination => uplink.acceptFor destination topic payload
  | none => (uplink, .ok none)

namespace Job

/-- The job of a method request once the callback has answered. -/
def answered (response : MethodResponse) : Job → Job
  | running _ request => responding request.requestId response
  | job => job

end Job

/-- Publish the response to a method request; a fault is not reported to anybody. -/
def respond (uplink : Uplink) (requestId : String) (response : MethodResponse) : Uplink :=
  (uplink.publish (Topic.Hub.methodResponse response.status requestId) response.payload).1

end DeviceGateway.Uplink
