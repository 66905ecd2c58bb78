/-
# Subscriptions

What a local session may subscribe to, and the command that a session gets when it subscribes or
unsubscribes.  Method calls and desired properties come and go with a callback; messages are received
as long as the inbox lives, so that only subscribing to them does something.
-/

import DeviceGateway.Session.Basic

namespace DeviceGateway.Session

/-- What a local session subscribes to. -/
inductive Category where
  /-- Requests to run a method. -/
  | methods
  /-- Patches to the desired section of the twin. -/
  | desiredProperties
  /-- Messages of the hub. -/
  | messages
  /-- Answers to twin requests. -/
  | twinResponses
  /-- Messages between modules. -/
  | moduleMessages
deriving DecidableEq, Repr

/-- The categories under their names. -/
def Category.table : List (String × Category) :=
  [("Methods", methods), ("DesiredPropertyUpdates", desiredProperties), ("C2D", messages),
    ("TwinResponse", twinResponses), ("ModuleMessages", moduleMessages)]

/-- The command for subscribing to a category or unsubscribing from it; for some there is nothing to
do. -/
def Category.command? : Category → (subscribe : Bool) → Option Command
  | methods, true => some (.install .method)
  | methods, false => some (.remove .method)
  | desiredProperties, true => some (.install .desired)
  | desiredProperties, false => some (.remove .desired)
  | messages, true => some .startListening
  | messages, false | twinResponses, _ | moduleMessages, _ => none

end DeviceGateway.Session
