/-
# Words of the protocols

The closed sets of words that sessions, links and connections share: delivery guarantees, feedback on
a delivery, the status of a connection and the reason of its last change.  Each word has a name, under
which it is printed and read.
-/

import DeviceGateway.Fault
import DeviceGateway.Json.Record

namespace DeviceGateway

/-- How often a message arrives. -/
inductive DeliveryGuarantee where
  | atMostOnce
  | atLeastOnce
  | exactlyOnce
deriving DecidableEq, Repr

namespace DeliveryGuarantee

instance : Inhabited DeliveryGuarantee := ⟨atLeastOnce⟩

/-- The number of a guarantee in settings and on the wire. -/
def level : DeliveryGuarantee → Nat
  | atMostOnce => 0
  | atLeastOnce => 1
  | exactlyOnce => 2

/-- The guarantee with a number. -/
def ofLevel? : Nat → Option DeliveryGuarantee
  | 0 => some atMostOnce
  | 1 => some atLeastOnce
  | 2 => some exactlyOnce
  | _ => none

/-- The guarantee with a number, or the fault that names the number. -/
def ofLevel (level : Nat) : Answer DeliveryGuarantee :=
  match ofLevel? level with
  | some guarantee => .ok guarantee
  | none => .error (.invalidArgument "qos" ("expected 0, 1 or 2, got " ++ Numeral.ofNat level))

/-- The name of a guarantee. -/
def name : DeliveryGuarantee → String
  | atMostOnce => "AtMostOnce"
  | atLeastOnce => "AtLeastOnce"
  | exactlyOnce => "ExactlyOnce"

/-- A guarantee is given as its number. -/
def reader : Reader DeliveryGuarantee := fun format part =>
  (format.natural 255 part).bind ofLevel?

/-- The JSON form of a guarantee. -/
def shape : Json.Shape DeliveryGuarantee := .of reader

@[simp]
theorem ofLevel?_level (guarantee : DeliveryGuarantee) :
    ofLevel? guarantee.level = some guarantee := by
  cases guarantee <;> rfl

end DeliveryGuarantee

/-- What is reported to the hub about a delivered message. -/
inductive Feedback where
  /-- Processed; remove it from the queue. -/
  | complete
  /-- Put it back for another delivery. -/
  | abandon
  /-- Discard it for good. -/
  | reject
deriving DecidableEq, Repr

namespace Feedback

/-- The feedback words under their names. -/
def table : List (String × Feedback) :=
  [("Complete", complete), ("Abandon", abandon), ("Reject", reject)]

/-- The name of a feedback word. -/
def name : Feedback → String
  | complete => "Complete"
  | abandon => "Abandon"
  | reject => "Reject"

end Feedback

/-- The status of a connection to the hub. -/
inductive ConnectionStatus where
  | connected
  | disconnected
  | disconnectedRetrying
  | disabled
deriving DecidableEq, Repr

namespace ConnectionStatus

/-- The statuses under their names. -/
def table : List (String × ConnectionStatus) :=
  [("Connected", connected), ("Disconnected", disconnected),
    ("DisconnectedRetrying", disconnectedRetrying), ("Disabled", disabled)]

/-- The name of a status. -/
def name : ConnectionStatus → String
  | connected => "Connected"
  | disconnected => "Disconnected"
  | disconnectedRetrying => "DisconnectedRetrying"
  | disabled => "Disabled"

end ConnectionStatus

/-- Why the status of a connection changed. -/
inductive StatusReason where
  | connectionOk
  | expiredCredential
  | badCredential
  | deviceDisabled
  | retryExpired
  | noNetwork
  | communicationError
  | clientClose
deriving DecidableEq, Repr

namespace StatusReason

/-- The reasons under their names. -/
def table : List (String × StatusReason) :=
  [("ConnectionOk", connectionOk), ("ExpiredCredential", expiredCredential),
    ("BadCredential", badCredential), ("DeviceDisabled", deviceDisabled),
    ("RetryExpired", retryExpired), ("NoNetwork", noNetwork),
    ("CommunicationError", communicationError), ("ClientClose", clientClose)]

/-- The name of a reason. -/
def name : StatusReason → String
  | connectionOk => "ConnectionOk"
  | expiredCredential => "ExpiredCredential"
  | badCredential => "BadCredential"
  | deviceDisabled => "DeviceDisabled"
  | retryExpired => "RetryExpired"
  | noNetwork => "NoNetwork"
  | communicationError => "CommunicationError"
  | clientClose => "ClientClose"

end StatusReason

/-- Whether a session cannot come back from a change of status: it was disabled, or the connection
ended for a reason that trying again does not cure. -/
def isTerminal : ConnectionStatus → StatusReason → Bool
  | .disabled, _ => true
  | .disconnected, .expiredCredential | .disconnected, .badCredential
  | .disconnected, .deviceDisabled | .disconnected, .retryExpired => true
  | _, _ => false

end DeviceGateway
