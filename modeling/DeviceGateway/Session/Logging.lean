/-
# The listener of the program itself

Where no local session is attached, the program listens itself.  It completes every message that has a
token for feedback, refuses method calls, and takes note of desired properties.
-/

import DeviceGateway.Session.Basic

namespace DeviceGateway.Session.Logging

/-- What is asked of the session for a message. -/
def command? (message : Message) : Option Command :=
  message.lockToken?.map fun token => .sendFeedback token .complete

/-- The answer to a method call: there is nobody to run the method. -/
def answer (call : MethodCall) : MethodAnswer :=
  .failure 404 ("no local session for '" ++ call.target ++ "'")

end DeviceGateway.Session.Logging
