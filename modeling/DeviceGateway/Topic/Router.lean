/-
# Routing

A router keeps routes in the order in which they were registered.  A message goes to the first route
whose filter matches its topic and to no other; where none matches, it goes nowhere.
-/

import DeviceGateway.Topic.Filter

namespace DeviceGateway.Topic

/-- Routes to destinations. -/
structure Router (α : Type) where
  /-- The routes, from the earliest on. -/
  routes : List (Filter × α) := []

namespace Router

variable {α : Type}

/-- Add a route; a text that is no filter changes nothing. -/
def register (router : Router α) (raw : String) (destination : α) :
    Except FilterFault (Router α) :=
  (Filter.compile raw).map fun filter => ⟨router.routes ++ [(filter, destination)]⟩

/-- Where a message with a topic goes. -/
def route (router : Router α) (topic : String) : Option α :=
  (router.routes.find? fun entry => entry.1.matchesTopic topic).map Prod.snd

end Router

end DeviceGateway.Topic
