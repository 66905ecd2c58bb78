/-
# Status changes

A change of the status of a session, and the feed in which a subscriber finds them.  A feed holds a
limited number of changes: where the subscriber does not keep up, the oldest ones are lost, and it is
told how many.
-/

import DeviceGateway.Identity
import DeviceGateway.Status

namespace DeviceGateway

/-- A change of the status of one identity's session. -/
structure StatusChange where
  identity : Identity
  status : ConnectionStatus
  reason : StatusReason
deriving DecidableEq

/-- The changes that a subscriber has not fetched. -/
structure Feed where
  /-- How many changes were lost. -/
  lost : Nat := 0
  /-- The changes that are kept, from the oldest on. -/
  changes : List StatusChange := []
deriving DecidableEq

namespace Feed

/-- How many changes a feed holds. -/
def capacity : Nat := 64

/-- Add a change. -/
def publish (feed : Feed) (change : StatusChange) : Feed :=
  if feed.changes.length < capacity then { feed with changes := feed.changes ++ [change] }
  else ⟨feed.lost + 1, feed.changes.drop 1 ++ [change]⟩

end Feed

end DeviceGateway
