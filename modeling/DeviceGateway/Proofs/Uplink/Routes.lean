/-
# Where the messages to a device go

A device subscribes to its own messages with a filter that holds its name.  The name may be any text
without a slash that is not blank, and so it may be a wildcard: a name that holds one is refused with the
filter, but for the name `+`, which is a level of its own that stands for the name of any device.  With
any other name, the filter matches the topics of the messages to this device and no others.
-/

import DeviceGateway.Proofs.Topic.Bag
import DeviceGateway.Proofs.Topic.Filter
import DeviceGateway.Proofs.Uplink.Queue

namespace DeviceGateway

namespace Topic.Hub

open Topic.Filter (Admits)

/-! ## Topics of messages to a device -/

/-- How the topics of the messages to a device begin. -/
def deviceBase (device : String) : String := "devices/" ++ device ++ "/messages/devicebound"

/-- Whether a topic is one of the messages to a device. -/
def IsForDevice (device topic : String) : Prop :=
  topic = deviceBase device ∨ ∃ rest, topic = deviceBase device ++ "/" ++ rest

def deviceLevels (device : String) : List String := ["devices", device, "messages", "devicebound"]

theorem ofLevels_deviceLevels (device : String) : ofLevels (deviceLevels device) = deviceBase device := by
  apply String.toList_inj.1
  simp [ofLevels, deviceLevels, deviceBase, Text.joinWith]

theorem slash_not_mem_deviceLevels {device : String} (undivided : '/' ∉ device.toList) :
    ∀ level ∈ deviceLevels device, '/' ∉ level.toList := by
  simp only [deviceLevels, List.forall_mem_cons, List.not_mem_nil, false_imp_iff, implies_true, and_true]
  exact ⟨by decide, undivided, by decide, by decide⟩

theorem isForDevice_iff {device : String} (undivided : '/' ∉ device.toList) (topic : String) :
    IsForDevice device topic ↔ deviceLevels device <+: levels topic := by
  rw [isPrefix_levels_iff (by simp [deviceLevels]) (slash_not_mem_deviceLevels undivided),
    ofLevels_deviceLevels, IsForDevice]

/-- A message is for one device. -/
theorem IsForDevice.unique {device other topic : String} (own : IsForDevice device topic)
    (foreign : IsForDevice other topic) (undivided : '/' ∉ device.toList)
    (undivided' : '/' ∉ other.toList) : device = other := by
  obtain ⟨rest, whole⟩ := (isForDevice_iff undivided topic).1 own
  obtain ⟨rest', whole'⟩ := (isForDevice_iff undivided' topic).1 foreign
  have same := whole.trans whole'.symm
  simp only [deviceLevels, List.cons_append, List.cons.injEq] at same
  exact same.2.1

/-! ## The filter of a device -/

theorem levels_deviceMessages (identity : Identity) :
    levels (deviceMessages identity) = deviceLevels identity.device ++ ["#"] := by
  have whole : deviceMessages identity = ofLevels (deviceLevels identity.device ++ ["#"]) := by
    apply String.toList_inj.1
    simp [ofLevels, deviceLevels, deviceMessages, Text.joinWith]
  rw [whole, levels_ofLevels (by simp)]
  intro level member
  rcases List.mem_append.1 member with first | last
  · exact slash_not_mem_deviceLevels (slash_not_mem_device identity) level first
  · obtain rfl := List.mem_singleton.1 last
    decide

/-- The name of a device with a filter holds no wildcard or is one. -/
theorem levels_of_compile {identity : Identity} {filter : Filter}
    (compiled : Filter.compile (deviceMessages identity) = .ok filter) :
    filter.levels = (deviceLevels identity.device).map Filter.levelOf ++ [Level.multi] ∧
      (identity.device = "+" ∨ Filter.hasWildcard identity.device = false) := by
  unfold Filter.compile at compiled
  split at compiled
  case isTrue => cases compiled
  case isFalse =>
    rw [levels_deviceMessages] at compiled
    cases found : Filter.compileLevels (deviceMessages identity)
        (deviceLevels identity.device ++ ["#"]) with
    | error fault =>
      rw [found] at compiled
      cases compiled
    | ok levels =>
      rw [found] at compiled
      cases compiled
      obtain ⟨rfl, may⟩ := Filter.compileLevels_eq_ok_iff.1 found
      refine ⟨List.map_append, ?_⟩
      rcases may ["devices"] identity.device ["messages", "devicebound", "#"] rfl with
        wild | ⟨_, last⟩ | plain
      · exact .inl wild
      · cases last
      · exact .inr plain

theorem admits_levelOf_iff {device : String}
    (named : device = "+" ∨ Filter.hasWildcard device = false) (level : String) :
    Admits (Filter.levelOf device) level ↔ device = "+" ∨ level = device := by
  rcases named with rfl | plain
  · simp [Filter.levelOf, Admits]
  · have single : device ≠ "+" := by
      rintro rfl
      cases plain
    have multi : device ≠ "#" := by
      rintro rfl
      cases plain
    simp [Filter.levelOf, single, multi, Admits]

/-- The levels of the filter admit those of the messages to the device, or to any device. -/
theorem admits_deviceLevels_iff {device : String}
    (named : device = "+" ∨ Filter.hasWildcard device = false) {first : List String} :
    List.Forall₂ Admits ((deviceLevels device).map Filter.levelOf) first ↔
      ∃ other, first = deviceLevels other ∧ (device = "+" ∨ other = device) := by
  constructor
  · intro admits
    simp only [deviceLevels, List.map_cons, List.map_nil] at admits
    obtain _ | ⟨rfl, _ | @⟨_, other, _, _, admitted, _ | ⟨rfl, _ | ⟨rfl, ⟨⟩⟩⟩⟩⟩ := admits
    exact ⟨other, rfl, (admits_levelOf_iff named other).1 admitted⟩
  · rintro ⟨other, rfl, admitted⟩
    exact .cons rfl (.cons ((admits_levelOf_iff named other).2 admitted) (.cons rfl (.cons rfl .nil)))

/-- The filter of a device matches the topics of the messages to it; with the name `+`, it matches those of
the messages to any device. -/
theorem matchesTopic_iff {identity : Identity} {filter : Filter}
    (compiled : Filter.compile (deviceMessages identity) = .ok filter) (topic : String) :
    filter.matchesTopic topic = true ↔ ∃ device, '/' ∉ device.toList ∧
      (identity.device = "+" ∨ device = identity.device) ∧ IsForDevice device topic := by
  obtain ⟨whole, named⟩ := levels_of_compile compiled
  have fixed : .multi ∉ (deviceLevels identity.device).map Filter.levelOf := by
    intro member
    simp only [deviceLevels, List.map_cons, List.map_nil, List.mem_cons, List.not_mem_nil,
      or_false] at member
    rcases member with same | same | same | same
    · cases same
    · have admitted := (admits_levelOf_iff named identity.device).2 (.inr rfl)
      rw [← same] at admitted
      exact admitted
    · cases same
    · cases same
  rw [Filter.matchesTopic, whole, Filter.accepts_append_multi_iff fixed]
  constructor
  · rintro ⟨_, admits, within⟩
    obtain ⟨device, rfl, named'⟩ := (admits_deviceLevels_iff named).1 admits
    have undivided : '/' ∉ device.toList :=
      slash_not_mem_of_mem_levels (within.subset (by simp [deviceLevels]))
    exact ⟨device, undivided, named', (isForDevice_iff undivided topic).2 within⟩
  · rintro ⟨device, undivided, named', own⟩
    exact ⟨deviceLevels device, (admits_deviceLevels_iff named).2 ⟨device, rfl, named'⟩,
      (isForDevice_iff undivided topic).1 own⟩

end Topic.Hub

namespace Uplink

open Topic.Hub (IsForDevice deviceMessages)

/-! ## Routes -/

/-- The filters of the hub's own topics. -/
def hubRoutes : List (Topic.Filter × Destination) :=
  [(⟨Topic.Hub.twinResponses, [.literal "$iothub", .literal "twin", .literal "res", .multi]⟩,
      .twinResponses),
    (⟨Topic.Hub.desiredPatches, [.literal "$iothub", .literal "twin", .literal "PATCH",
      .literal "properties", .literal "desired", .multi]⟩, .desiredPatches),
    (⟨Topic.Hub.methodRequests, [.literal "$iothub", .literal "methods", .literal "POST", .multi]⟩,
      .methodRequests)]

/-- The routes of a device with a filter for the messages to it. -/
def deviceRoutes (filter : Topic.Filter) : Topic.Router Destination :=
  ⟨hubRoutes ++ [(filter, Destination.deviceMessages)]⟩

/-- The hub's own topics are registered before any other route. -/
theorem registerAll_routes (identity : Identity) : registerAll {} (routes identity) =
    registerAll ⟨hubRoutes⟩
      (if identity.isModule then [] else [(deviceMessages identity, .deviceMessages)]) := by
  rfl

/-- A device has a client if its filter can be compiled; the client has the hub's own routes and one for the
messages to the device. -/
theorem new_eq_ok_iff {identity : Identity} {settings : Settings.Hub} {uplink : Uplink}
    (device : identity.isModule = false) : new identity settings = .ok uplink ↔
      ∃ filter, Topic.Filter.compile (deviceMessages identity) = .ok filter ∧
        uplink = fresh identity settings (deviceRoutes filter) := by
  rw [new, registerAll_routes, device, if_neg Bool.false_ne_true, registerAll, Topic.Router.register]
  cases Topic.Filter.compile (deviceMessages identity) with
  | error fault => simp [Except.map]
  | ok filter => simp [Except.map, registerAll, fresh, deviceRoutes, eq_comm]

/-- The hub's own topics all begin in the same way, and no message to a device does. -/
theorem route_eq_deviceMessages_iff {identity : Identity} {filter : Topic.Filter}
    (compiled : Topic.Filter.compile (deviceMessages identity) = .ok filter) (topic : String) :
    (deviceRoutes filter).route topic = some Destination.deviceMessages ↔
      filter.matchesTopic topic = true := by
  have apart : filter.matchesTopic topic = true →
      ∀ entry ∈ hubRoutes, entry.1.matchesTopic topic = false := by
    intro own
    obtain ⟨device, undivided, _, isFor⟩ := (Topic.Hub.matchesTopic_iff compiled topic).1 own
    obtain ⟨rest, whole⟩ := (Topic.Hub.isForDevice_iff undivided topic).1 isFor
    simp [hubRoutes, Topic.Filter.matchesTopic, ← whole, Topic.Hub.deviceLevels, Topic.Filter.accepts]
  constructor
  · intro routed
    obtain ⟨entry, found, same⟩ := Option.map_eq_some_iff.1 routed
    rcases List.mem_append.1 (List.mem_of_find?_eq_some found) with hub | own
    · have other : ∀ entry ∈ hubRoutes, entry.2 ≠ .deviceMessages := by decide
      exact absurd same (other entry hub)
    · have matched := List.find?_some found
      obtain rfl := List.mem_singleton.1 own
      exact matched
  · intro own
    have passed : hubRoutes.find? (fun entry => entry.1.matchesTopic topic) = none := by
      rw [List.find?_eq_none]
      intro entry member
      simp [apart own entry member]
    rw [Topic.Router.route, deviceRoutes, List.find?_append, passed]
    simp [own]

/-! ## What comes into the queue -/

/-- Only a publication that is routed there changes the queue. -/
theorem route_of_queue_ne {uplink : Uplink} {topic : String} {payload : Bytes}
    (changed : (uplink.accept topic payload).1.queue ≠ uplink.queue) :
    uplink.router.route topic = some Destination.deviceMessages := by
  by_contra other
  apply changed
  simp [queue_accept, roomFor?, messageOf?_of_route_ne other]

/-- What the client of a device hears as the messages to it, by the name of the device. -/
structure HearsOwn (identity : Identity) (filter : Topic.Filter) (uplink : Uplink) : Prop where
  /-- The filter matches the topics of the messages to the device. -/
  own : identity.device ≠ "+" → ∀ topic,
    filter.matchesTopic topic = true ↔ IsForDevice identity.device topic
  apart : identity.device ≠ "+" → ∀ other topic : String, '/' ∉ other.toList →
    other ≠ identity.device → IsForDevice other topic → filter.matchesTopic topic = false
  /-- The name that is a wildcard stands for the name of any device. -/
  wild : identity.device = "+" → ∀ topic, filter.matchesTopic topic = true ↔
    ∃ device : String, '/' ∉ device.toList ∧ IsForDevice device topic
  routed : ∀ topic, uplink.router.route topic = some Destination.deviceMessages ↔
    filter.matchesTopic topic = true
  /-- Whatever state the client has come to, no other topic brings a message into its queue. -/
  queued : ∀ (state : Uplink) topic payload, state.router = uplink.router →
    (state.accept topic payload).1.queue ≠ state.queue → filter.matchesTopic topic = true

/-- The client of a device whose filter can be registered hears the messages to this device and to no
other, unless the name of the device is a wildcard. -/
theorem hearsOwn_of_new {identity : Identity} {settings : Settings.Hub} {uplink : Uplink}
    (device : identity.isModule = false) (created : new identity settings = .ok uplink) :
    ∃ filter, Topic.Filter.compile (deviceMessages identity) = .ok filter ∧
      HearsOwn identity filter uplink := by
  obtain ⟨filter, compiled, rfl⟩ := (new_eq_ok_iff device).1 created
  have undivided := Topic.Hub.slash_not_mem_device identity
  have own : identity.device ≠ "+" → ∀ topic,
      filter.matchesTopic topic = true ↔ IsForDevice identity.device topic := by
    intro plain topic
    rw [Topic.Hub.matchesTopic_iff compiled]
    constructor
    · rintro ⟨other, _, wild | rfl, isFor⟩
      · exact absurd wild plain
      · exact isFor
    · exact fun isFor => ⟨identity.device, undivided, .inr rfl, isFor⟩
  refine ⟨filter, compiled, ?_⟩
  constructor
  case own => exact own
  case apart =>
    intro plain other topic undivided' foreign isFor
    rw [← Bool.not_eq_true, own plain]
    exact fun isOwn => foreign (isFor.unique isOwn undivided' undivided)
  case wild =>
    intro wild topic
    rw [Topic.Hub.matchesTopic_iff compiled]
    exact ⟨fun ⟨device, free, _, isFor⟩ => ⟨device, free, isFor⟩,
      fun ⟨device, free, isFor⟩ => ⟨device, free, .inl wild, isFor⟩⟩
  case routed => exact route_eq_deviceMessages_iff compiled
  case queued =>
    intro state topic payload same changed
    have routed := route_of_queue_ne changed
    rw [same] at routed
    exact (route_eq_deviceMessages_iff compiled topic).1 routed

/-- A device has no module whose name could be wrong. -/
theorem isComponent_of_mem_none : ∀ name ∈ (none : Option String), isComponent name = true := by
  rintro _ ⟨⟩

def thermometer : Identity where
  device := "thermometer"
  module? := none
  device_valid := rfl
  module_valid := isComponent_of_mem_none

/-- A device with an ordinary name has a client, and it hears no message to another device. -/
theorem hearsOwn_of_new_thermometer : ∃ uplink filter, new thermometer {} = .ok uplink ∧
    thermometer.isModule = false ∧ HearsOwn thermometer filter uplink ∧
      filter.matchesTopic "devices/thermometer/messages/devicebound/on=1" = true ∧
        filter.matchesTopic "devices/barometer/messages/devicebound/on=1" = false := by
  have created := (@new_eq_ok_iff thermometer {} _ rfl).2 ⟨_, rfl, rfl⟩
  obtain ⟨filter, _, hears⟩ := @hearsOwn_of_new thermometer {} _ rfl created
  have plain : thermometer.device ≠ "+" := by decide
  refine ⟨_, filter, created, rfl, hears, (hears.own plain _).2 (.inr ⟨"on=1", rfl⟩), ?_⟩
  exact hears.apart plain "barometer" _ (by decide) (by decide) (.inr ⟨"on=1", rfl⟩)

/-- The identity of a device with the name of a wildcard. -/
def anyDevice : Identity where
  device := "+"
  module? := none
  device_valid := rfl
  module_valid := isComponent_of_mem_none

/-- The client of a device with that name takes a message to another device into its queue. -/
theorem queued_of_wildcard : ∃ uplink, new anyDevice {} = .ok uplink ∧
    ¬ IsForDevice anyDevice.device "devices/barometer/messages/devicebound/" ∧
      IsForDevice "barometer" "devices/barometer/messages/devicebound/" ∧
        (uplink.accept "devices/barometer/messages/devicebound/" []).1.queue = [{}] := by
  refine ⟨_, (new_eq_ok_iff rfl).2 ⟨_, rfl, rfl⟩, ?_, .inr ⟨"", rfl⟩, rfl⟩
  intro own
  have same : "+" = "barometer" := own.unique (.inr ⟨"", rfl⟩) (by decide) (by decide)
  exact absurd same (by decide)

end Uplink

end DeviceGateway
