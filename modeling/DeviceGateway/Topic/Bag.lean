/-
# Property bags

The properties of a message at the end of a topic: pairs of a name and a value with an equals sign
between them, joined by ampersands, names and values percent encoded.  The well-known properties come
first under names that start with `$.`, the properties of the application follow in the order of
their names.

Reading a bag skips empty pairs, takes a pair without an equals sign as a name with an empty value
and lets a later pair replace an earlier one of the same name.
-/

import DeviceGateway.Message.Basic
import DeviceGateway.Text.Percent
import DeviceGateway.Text.Split

namespace DeviceGateway.Topic.Bag

def messageIdKey : String := "$.mid"
def correlationIdKey : String := "$.cid"
def contentTypeKey : String := "$.ct"
def contentEncodingKey : String := "$.ce"

/-- The pairs of a message: its well-known properties, then those of the application. -/
def pairs (message : HubMessage) : List (String × String) :=
  [(messageIdKey, message.messageId), (correlationIdKey, message.correlationId),
    (contentTypeKey, message.contentType), (contentEncodingKey, message.contentEncoding)].filterMap
      (fun entry => entry.2.map fun value => (entry.1, value)) ++
    message.properties.toList

/-- A pair as it is written. -/
def encodePair (pair : String × String) : List Char :=
  Percent.encode pair.1 ++ '=' :: Percent.encode pair.2

/-- The bag of a message. -/
def encode (message : HubMessage) : String :=
  String.ofList (Text.joinWith '&' ((pairs message).map encodePair))

/-- A pair as it is read. -/
def decodePair (pair : List Char) : String × String :=
  match Text.splitFirst '=' pair with
  | some (key, value) => (Percent.decode key, Percent.decode value)
  | none => (Percent.decode pair, "")

/-- The pairs of a bag. -/
def decode (bag : List Char) : List (String × String) :=
  ((Text.splitAll '&' bag).filter fun pair => !pair.isEmpty).map decodePair

/-- Whether a name belongs to the hub: the properties of the application have other names. -/
def isReserved (key : String) : Bool :=
  (Text.afterStart "$.".toList key.toList).isSome ||
    (Text.afterStart "iothub-".toList key.toList).isSome

/-- Give a message one property of a bag. -/
def apply (message : HubMessage) (pair : String × String) : HubMessage :=
  let (key, value) := pair
  if key = messageIdKey then { message with messageId := some value }
  else if key = correlationIdKey then { message with correlationId := some value }
  else if key = contentTypeKey then { message with contentType := some value }
  else if key = contentEncodingKey then { message with contentEncoding := some value }
  else if isReserved key then message
  else { message with properties := message.properties.insert key value }

/-- The message with a body and a bag of properties.  Its identifier is also its lock token. -/
def toMessage (body : Bytes) (bag : List Char) : HubMessage :=
  let message := (decode bag).foldl apply { body }
  { message with lockToken := message.messageId }

end DeviceGateway.Topic.Bag
