/-
# Faults

Everything that can go wrong in a session, as one inductive type of causes.  The wording of a fault is
given in one place, `Fault.message`.  Two classes of faults steer the sessions: an unauthorized fault
closes the session that meets it, and a transient fault lets a receive loop go on after a pause.
-/

import DeviceGateway.Text.Numeral

namespace DeviceGateway

/-- What went wrong in a session, on a link or while reading input. -/
inductive Fault where
  /-- The hub rejected the credentials of an identity. -/
  | unauthorized (identity reason : String)
  /-- The network or the protocol failed on the way to the hub. -/
  | transport (reason : String)
  /-- A message could not be handed to the connection. -/
  | publishFailed (reason : String)
  /-- The hub answered a request with a status that is no success. -/
  | requestFailed (status : Nat) (reason : String)
  /-- An operation took too long. -/
  | timeout (operation : String) (milliseconds : Nat)
  /-- There is no connection to the hub. -/
  | notConnected
  /-- The transport cannot do what was asked. -/
  | operationNotSupported (operation : String)
  /-- The session is closed and does not open again. -/
  | sessionClosed (identity : String)
  /-- The operation needs a bound listener and there is none. -/
  | receiverNotBound (identity : String)
  /-- A caller gave an argument that is not allowed. -/
  | invalidArgument (name reason : String)
  /-- A text is no identity. -/
  | invalidIdentity (value reason : String)
  /-- A message does not have the required form. -/
  | invalidMessageFormat (reason : String)
  /-- A document could not be read or written. -/
  | serialization (reason : String)
  /-- A delivery ended with an outcome that has no feedback. -/
  | unrecognizedOutcome (descriptor : Nat)
  /-- A link did not open in time. -/
  | linkOpenTimeout (milliseconds : Nat)
  /-- The peer refused the settings of a link. -/
  | linkNegotiationRejected (reason : String)
  /-- A link failed in another way. -/
  | link (reason : String)
  /-- A channel between tasks is gone. -/
  | dataSend (message : String)
  /-- A task could not go on. -/
  | runtime (reason : String)
deriving DecidableEq, Repr, Inhabited

namespace Fault

/-- The name of the kind of a fault. -/
def kind : Fault → String
  | .unauthorized _ _ => "Unauthorized"
  | .transport _ => "Transport"
  | .publishFailed _ => "PublishFailed"
  | .requestFailed _ _ => "RequestFailed"
  | .timeout _ _ => "Timeout"
  | .notConnected => "NotConnected"
  | .operationNotSupported _ => "OperationNotSupported"
  | .sessionClosed _ => "SessionClosed"
  | .receiverNotBound _ => "ReceiverNotBound"
  | .invalidArgument _ _ => "InvalidArgument"
  | .invalidIdentity _ _ => "InvalidIdentity"
  | .invalidMessageFormat _ => "InvalidMessageFormat"
  | .serialization _ => "SerializationError"
  | .unrecognizedOutcome _ => "UnrecognizedOutcome"
  | .linkOpenTimeout _ => "LinkOpenTimeout"
  | .linkNegotiationRejected _ => "LinkNegotiationRejected"
  | .link _ => "LinkError"
  | .dataSend _ => "DataSendError"
  | .runtime _ => "RuntimeError"

/-- The lower-case hexadecimal digits of a number. -/
def hexText (n : Nat) : String := String.ofList (Nat.toDigits 16 n)

/-- The wording of a fault. -/
def message : Fault → String
  | .unauthorized identity reason => "Unauthorized for identity '" ++ identity ++ "': " ++ reason
  | .transport reason => "Upstream transport error: " ++ reason
  | .publishFailed reason => "Failed to publish message upstream: " ++ reason
  | .requestFailed status reason =>
    "Upstream request failed with status " ++ Numeral.ofNat status ++ ": " ++ reason
  | .timeout operation milliseconds =>
    "Operation timed out after " ++ Numeral.ofNat milliseconds ++ "ms: " ++ operation
  | .notConnected => "Not connected to upstream - operation requires active connection"
  | .operationNotSupported operation => "Operation not supported: " ++ operation
  | .sessionClosed identity => "Cloud session for '" ++ identity ++ "' is closed"
  | .receiverNotBound identity => "No cloud receiver bound for '" ++ identity ++ "'"
  | .invalidArgument name reason => "Invalid argument '" ++ name ++ "': " ++ reason
  | .invalidIdentity value reason => "Invalid identity '" ++ value ++ "': " ++ reason
  | .invalidMessageFormat reason => "Invalid message format: " ++ reason
  | .serialization reason => "Serialization failed: " ++ reason
  | .unrecognizedOutcome descriptor =>
    "Unrecognized disposition outcome descriptor 0x" ++ hexText descriptor
  | .linkOpenTimeout milliseconds =>
    "Link open timed out after " ++ Numeral.ofNat milliseconds ++ "ms"
  | .linkNegotiationRejected reason => "Link negotiation rejected: " ++ reason
  | .link reason => "Link error: " ++ reason
  | .dataSend message => "Data send error: " ++ message
  | .runtime reason => "Runtime error: " ++ reason

/-- Whether the hub rejected the credentials: such a fault closes the session that meets it. -/
def isUnauthorized : Fault → Bool
  | .unauthorized _ _ => true
  | .requestFailed status _ => status == 401
  | _ => false

/-- Whether trying again may help. -/
def isTransient : Fault → Bool
  | .transport _ | .timeout _ _ | .notConnected | .publishFailed _ => true
  | _ => false

end Fault

/-- The outcome of an operation that returns a value or meets a fault. -/
abbrev Answer (α : Type) := Except Fault α

/-- A failure of the program around the sessions. -/
inductive ProgramFault where
  /-- The default: nothing more is known. -/
  | serviceUnavailable
  /-- A failure with a text of its own. -/
  | text (message : String)
  /-- A fault of a session. -/
  | session (fault : Fault)
  /-- The settings are wrong. -/
  | configuration (reason : String)
  /-- The program could not start. -/
  | initialization (reason : String)
  /-- The program could not stop in order. -/
  | shutdown (reason : String)
deriving DecidableEq, Repr

namespace ProgramFault

instance : Inhabited ProgramFault := ⟨serviceUnavailable⟩

/-- The wording of a failure of the program. -/
def message : ProgramFault → String
  | .serviceUnavailable => "service unavailable"
  | .text message => message
  | .session fault => fault.message
  | .configuration reason => "Configuration error: " ++ reason
  | .initialization reason => "Initialization error: " ++ reason
  | .shutdown reason => "Shutdown error: " ++ reason

end ProgramFault

end DeviceGateway
