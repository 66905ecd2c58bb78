/-
# The gate to the connection

Whether a session may publish, and through which connection.  The connection comes and goes; the gate
remembers the one that came up last until it is lost, the text of the last failure, that the session
was closed, and that the hub refused the credentials.  A refusal and a close are never forgotten: a
connection that comes up afterwards does not open the gate.
-/

import DeviceGateway.Fault

namespace DeviceGateway.Uplink

/-- The state of the connection of a session. -/
inductive Phase where
  | connecting
  | connected
  | reconnecting
  | disconnected
  /-- No further attempt is made. -/
  | failed (reason : String)
deriving DecidableEq, Repr

instance : Inhabited Phase := ⟨.connecting⟩

/-- The text of a state, as it is shown to operators. -/
def Phase.text : Phase → String
  | connecting => "Connecting"
  | connected => "Connected"
  | reconnecting => "Reconnecting"
  | disconnected => "Disconnected"
  | failed reason => "Failed(\"" ++ reason ++ "\")"

/-- What decides whether a session may publish. -/
structure Gate where
  /-- The number of the connection that is up. -/
  connection : Option Nat := none
  /-- Whether that connection is in order. -/
  healthy : Bool := false
  /-- Whether the session was closed. -/
  shutdown : Bool := false
  /-- The text of the last failure. -/
  lastError : Option String := none
  /-- The fault of every attempt to publish since the hub refused the credentials. -/
  refusal : Option Fault := none
deriving DecidableEq, Repr, Inhabited

namespace Gate

/-- The connection to publish through, or why there is none. -/
def pass (gate : Gate) : Answer Nat :=
  match gate.refusal with
  | some fault => .error fault
  | none =>
    if gate.shutdown || !gate.healthy then .error .notConnected
    else
      match gate.connection with
      | some connection => .ok connection
      | none => .error .notConnected

/-- A connection has come up. -/
def opened (gate : Gate) (connection : Nat) : Gate :=
  { gate with connection := some connection, healthy := true, lastError := none }

/-- The connection is gone. -/
def disconnected (gate : Gate) : Gate := { gate with connection := none, healthy := false }

/-- The connection is gone because of a failure. -/
def lost (gate : Gate) (failure : String) : Gate :=
  { gate.disconnected with lastError := some failure }

/-- The hub has refused the credentials. -/
def refuse (gate : Gate) (fault : Fault) : Gate :=
  { gate.disconnected with refusal := some fault }

/-- The session has been closed. -/
def close (gate : Gate) : Gate := { gate.disconnected with shutdown := true }

/-- The gate admits a publication exactly when nothing was refused, the session is open, and a
connection is up and in order. -/
theorem pass_eq_ok_iff (gate : Gate) (connection : Nat) :
    gate.pass = .ok connection ↔
      gate.refusal = none ∧ gate.shutdown = false ∧ gate.healthy = true ∧
        gate.connection = some connection := by
  unfold pass
  cases gate.refusal with
  | some fault => simp
  | none =>
    cases gate.shutdown <;> cases gate.healthy <;> cases gate.connection <;> simp

/-- A refusal is the fault of every later publication. -/
theorem pass_of_refusal {gate : Gate} {fault : Fault} (refused : gate.refusal = some fault) :
    gate.pass = .error fault := by
  simp [pass, refused]

end Gate

end DeviceGateway.Uplink
