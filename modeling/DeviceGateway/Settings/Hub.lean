/-
# Settings of the connection to the hub

Where the hub is, how to talk to it and how patiently.  The same settings serve every identity.
-/

import DeviceGateway.Retry.Policy
import DeviceGateway.Status

namespace DeviceGateway.Settings

/-- Settings of the connection to the hub. -/
structure Hub where
  /-- The name of the host, which is also part of the user name. -/
  host : String := "localhost"
  port : Nat := 1883
  /-- Whether to connect over TLS, which needs a certificate. -/
  tls : Bool := false
  /-- The path of the certificate that is trusted. -/
  caPath : Option String := none
  /-- The interval of keep-alive messages in seconds. -/
  keepAlive : Nat := 60
  cleanSession : Bool := false
  /-- The number of the delivery guarantee of publishes and subscriptions. -/
  qos : Nat := 1
  /-- How long a twin request may take, in milliseconds. -/
  operationTimeout : Nat := 30000
  /-- How long a receive call waits, in milliseconds. -/
  receiveTimeout : Nat := 20000
  /-- How many messages to a device are kept until they are received. -/
  queueCapacity : Nat := 128
  /-- The version of the interface of the hub, which is part of the user name. -/
  apiVersion : String := "2021-04-12"
  retryPolicy : Retry.Policy := {}
deriving DecidableEq, Repr, Inhabited

namespace Hub

/-- The delivery guarantee; a number that is none means delivery at least once. -/
def guarantee (settings : Hub) : DeliveryGuarantee :=
  (DeliveryGuarantee.ofLevel? settings.qos).getD .atLeastOnce

/-- The bound of the queue of messages to a device, which is at least one. -/
def queueBound (settings : Hub) : Nat := max settings.queueCapacity 1

/-- The names of the fields in their order. -/
def fieldNames : List String :=
  ["host", "port", "tls", "ca_path", "keep_alive_secs", "clean_session", "qos",
    "operation_timeout_ms", "receive_timeout_ms", "c2d_queue_capacity", "api_version",
    "retry_policy"]

/-- The settings are given as a record. -/
def reader : Reader Hub := fun format part => do
  let default : Hub := {}
  let word := format.natural Word.greatest64
  let given ← format.fields fieldNames part
  let host ← given.get "host" format.text default.host
  let port ← given.get "port" (format.natural 65535) default.port
  let tls ← given.get "tls" format.bool default.tls
  let caPath ← given.get "ca_path" (format.optional format.text) default.caPath
  let keepAlive ← given.get "keep_alive_secs" (format.natural 65535) default.keepAlive
  let cleanSession ← given.get "clean_session" format.bool default.cleanSession
  let qos ← given.get "qos" (format.natural 255) default.qos
  let operationTimeout ← given.get "operation_timeout_ms" word default.operationTimeout
  let receiveTimeout ← given.get "receive_timeout_ms" word default.receiveTimeout
  let queueCapacity ← given.get "c2d_queue_capacity" word default.queueCapacity
  let apiVersion ← given.get "api_version" format.text default.apiVersion
  let retryPolicy ← given.get "retry_policy" (Retry.Policy.reader format) default.retryPolicy
  return { host, port, tls, caPath, keepAlive, cleanSession, qos, operationTimeout, receiveTimeout,
           queueCapacity, apiVersion, retryPolicy }

/-- The JSON form of the settings. -/
def shape : Json.Shape Hub := .of reader

/-- The JSON value of the settings, in which a missing certificate is left out. -/
def toJson (settings : Hub) : Json.Value :=
  .ofObject ((TextMap.ofList
    [("host", .text settings.host), ("port", .ofNat settings.port), ("tls", .bool settings.tls),
      ("keep_alive_secs", .ofNat settings.keepAlive), ("clean_session", .bool settings.cleanSession),
      ("qos", .ofNat settings.qos), ("operation_timeout_ms", .ofNat settings.operationTimeout),
      ("receive_timeout_ms", .ofNat settings.receiveTimeout),
      ("c2d_queue_capacity", .ofNat settings.queueCapacity),
      ("api_version", .text settings.apiVersion),
      ("retry_policy", settings.retryPolicy.toJson)]).insert? "ca_path"
        (settings.caPath.map .text))

end Hub

end DeviceGateway.Settings
