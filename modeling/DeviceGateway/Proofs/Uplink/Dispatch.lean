/-
# One route for every topic

The filters of a client and the readers of topics do not know of each other: a filter compares levels, and
a reader looks for the beginning of a text.  They agree nevertheless.  The topics of each route begin with
levels of their own, so that no topic is matched by the filters of two routes and the order of the routes
makes no difference; and a topic that one of the readers can read begins with the levels of its route.
-/

import DeviceGateway.Proofs.Topic.Router
import DeviceGateway.Proofs.Uplink.Routes
import DeviceGateway.Uplink.Inbound
import Mathlib.Data.List.Perm.Basic

namespace DeviceGateway.Uplink

open Topic (Filter Router levels ofLevels)
open Topic.Hub (deviceLevels deviceMessages)

variable {identity : Identity} {settings : Settings.Hub} {uplink : Uplink}

/-! ## Registering routes -/

/-- Whether an entry is what a route is registered as. -/
def IsEntry (route : String × Destination) (entry : Filter × Destination) : Prop :=
  Filter.compile route.1 = .ok entry.1 ∧ route.2 = entry.2

/-- Routes can be registered exactly where all of them are filters, and then they stand in their order. -/
theorem registerAll_eq_ok_iff {start router : Router Destination} {order : List (String × Destination)} :
    registerAll start order = .ok router ↔
      ∃ entries, List.Forall₂ IsEntry order entries ∧ router = ⟨start.routes ++ entries⟩ := by
  induction order generalizing start with
  | nil => simp [registerAll, eq_comm]
  | cons route rest ih =>
    obtain ⟨raw, destination⟩ := route
    cases compiled : Filter.compile raw with
    | error fault =>
      simp [registerAll, Topic.Router.register, compiled, Except.map, IsEntry, List.forall₂_cons_left_iff]
    | ok filter =>
      simp [registerAll, Topic.Router.register, compiled, Except.map, IsEntry, List.forall₂_cons_left_iff,
        ih]

/-- In another order, the same routes are registered. -/
theorem registerAll_perm {order other : List (String × Destination)} {router : Router Destination}
    (perm : order.Perm other) (registered : registerAll {} other = .ok router) :
    ∃ router', registerAll {} order = .ok router' ∧ router'.routes.Perm router.routes := by
  obtain ⟨entries, filed, rfl⟩ := registerAll_eq_ok_iff.1 registered
  obtain ⟨entries', filed', perm'⟩ := List.perm_comp_forall₂ perm filed
  exact ⟨_, registerAll_eq_ok_iff.2 ⟨entries', filed', rfl⟩, by simpa using perm'⟩

/-! ## How the topics of a route begin -/

/-- The levels with which a topic may begin that belongs to a destination. -/
inductive Begins (identity : Identity) : Destination → List String → Prop
  | twinResponses : Begins identity .twinResponses ["$iothub", "twin", "res"]
  | desiredPatches :
    Begins identity .desiredPatches ["$iothub", "twin", "PATCH", "properties", "desired"]
  | methodRequests : Begins identity .methodRequests ["$iothub", "methods", "POST"]
  /-- The name of the device may be the wildcard that stands for any name. -/
  | deviceMessages (device : String) (isDevice : identity.isModule = false)
    (undivided : '/' ∉ device.toList) (named : identity.device = "+" ∨ device = identity.device) :
    Begins identity .deviceMessages (deviceLevels device)

/-- Whether a topic belongs to a destination. -/
def Belongs (identity : Identity) (topic : String) (destination : Destination) : Prop :=
  ∃ first, Begins identity destination first ∧ first <+: levels topic

/-- The levels with which the topics to one destination begin cannot be continued to those to another. -/
theorem Belongs.unique {topic : String} {one other : Destination} (own : Belongs identity topic one)
    (foreign : Belongs identity topic other) : one = other := by
  obtain ⟨first, begins, rest, whole⟩ := own
  obtain ⟨second, begins', rest', whole'⟩ := foreign
  rw [← whole] at whole'
  cases begins <;> cases begins' <;> first | rfl | simp [deviceLevels] at whole'

/-- A filter without wildcards before `#` matches what begins with its levels. -/
theorem matchesTopic_iff_belongs_of_literals {filter : Filter} {destination : Destination}
    (fixed : List String) (whole : filter.levels = fixed.map .literal ++ [.multi])
    (only : ∀ first, Begins identity destination first ↔ first = fixed) (topic : String) :
    filter.matchesTopic topic = true ↔ Belongs identity topic destination := by
  simp only [Filter.matchesTopic, whole, Filter.accepts_literals_multi_iff, Belongs, only,
    exists_eq_left]

theorem matchesTopic_hubRoutes {entry : Filter × Destination} (member : entry ∈ hubRoutes)
    (topic : String) : entry.1.matchesTopic topic = true ↔ Belongs identity topic entry.2 := by
  simp only [hubRoutes, List.mem_cons, List.not_mem_nil, or_false] at member
  rcases member with rfl | rfl | rfl
  · exact matchesTopic_iff_belongs_of_literals ["$iothub", "twin", "res"] rfl
      (fun _ => ⟨by rintro ⟨⟩; rfl, fun same => same ▸ .twinResponses⟩) topic
  · exact matchesTopic_iff_belongs_of_literals ["$iothub", "twin", "PATCH", "properties", "desired"] rfl
      (fun _ => ⟨by rintro ⟨⟩; rfl, fun same => same ▸ .desiredPatches⟩) topic
  · exact matchesTopic_iff_belongs_of_literals ["$iothub", "methods", "POST"] rfl
      (fun _ => ⟨by rintro ⟨⟩; rfl, fun same => same ▸ .methodRequests⟩) topic

theorem registered_of_new (created : new identity settings = .ok uplink) :
    registerAll {} (routes identity) = .ok uplink.router := by
  unfold new at created
  cases registered : registerAll {} (routes identity) with
  | error fault =>
    rw [registered] at created
    cases created
  | ok router =>
    rw [registered] at created
    cases created
    rfl

/-- A module has a client with the hub's own routes. -/
theorem routes_of_new_of_isModule (module : identity.isModule = true)
    (created : new identity settings = .ok uplink) : uplink.router.routes = hubRoutes := by
  have registered := registered_of_new created
  rw [registerAll_routes, module, if_pos rfl, registerAll] at registered
  exact (congrArg Router.routes (Except.ok.inj registered)).symm

/-- The filter of each route matches the topics that belong to its destination. -/
theorem matchesTopic_iff_belongs (created : new identity settings = .ok uplink)
    {entry : Filter × Destination} (member : entry ∈ uplink.router.routes) (topic : String) :
    entry.1.matchesTopic topic = true ↔ Belongs identity topic entry.2 := by
  cases isModule : identity.isModule with
  | true =>
    rw [routes_of_new_of_isModule isModule created] at member
    exact matchesTopic_hubRoutes member topic
  | false =>
    obtain ⟨filter, compiled, rfl⟩ := (new_eq_ok_iff isModule).1 created
    rcases List.mem_append.1 member with hub | own
    · exact matchesTopic_hubRoutes hub topic
    · obtain rfl := List.mem_singleton.1 own
      rw [Topic.Hub.matchesTopic_iff compiled]
      constructor
      · rintro ⟨device, undivided, named, isFor⟩
        exact ⟨_, .deviceMessages device isModule undivided named,
          (Topic.Hub.isForDevice_iff undivided topic).1 isFor⟩
      · rintro ⟨_, begins, within⟩
        obtain _ | _ | _ | ⟨device, _, undivided, named⟩ := begins
        exact ⟨device, undivided, named, (Topic.Hub.isForDevice_iff undivided topic).2 within⟩

/-- Every destination has one route, but that there is none for messages to a module. -/
theorem destinations_of_new (created : new identity settings = .ok uplink) :
    uplink.router.routes.map Prod.snd = [.twinResponses, .desiredPatches, .methodRequests] ++
      if identity.isModule then [] else [.deviceMessages] := by
  cases isModule : identity.isModule with
  | true => simp [routes_of_new_of_isModule isModule created, hubRoutes]
  | false =>
    obtain ⟨filter, _, rfl⟩ := (new_eq_ok_iff isModule).1 created
    simp [fresh, deviceRoutes, hubRoutes]

/-- A topic is routed to the destination it belongs to, in whatever order the routes stand. -/
theorem route_eq_some_iff_belongs (created : new identity settings = .ok uplink)
    {router : Router Destination} (perm : router.routes.Perm uplink.router.routes) (topic : String)
    (destination : Destination) :
    router.route topic = some destination ↔ Belongs identity topic destination := by
  have matched : ∀ entry ∈ router.routes,
      (entry.1.matchesTopic topic = true ↔ Belongs identity topic entry.2) :=
    fun _ member => matchesTopic_iff_belongs created (perm.mem_iff.1 member) topic
  rw [Router.route_eq_some_iff_of_alone]
  · constructor
    · rintro ⟨entry, member, own, rfl⟩
      exact (matched entry member).1 own
    · intro belongs
      have listed : destination ∈ uplink.router.routes.map Prod.snd := by
        rw [destinations_of_new created]
        obtain ⟨_, begins, _⟩ := belongs
        cases begins <;> simp_all
      obtain ⟨entry, member, rfl⟩ := List.mem_map.1 listed
      have member' := perm.mem_iff.2 member
      exact ⟨entry, member', (matched entry member').2 belongs, rfl⟩
  · intro one member other member' own foreign
    exact ((matched one member).1 own).unique ((matched other member').1 foreign)

/-! ## Readers -/

open Topic.Hub (parseTwinResponse? parseDesiredVersion? parseMethodRequest? parseDeviceMessage)

/-- What a reader finds behind the beginning of a topic stands behind the levels of that beginning. -/
theorem isPrefix_levels_of_afterStart {first : List String} (nonempty : first ≠ [])
    (undivided : ∀ level ∈ first, '/' ∉ level.toList) {start topic : String} {rest : List Char}
    (same : start = ofLevels first ++ "/")
    (found : Text.afterStart start.toList topic.toList = some rest) : first <+: levels topic := by
  refine (Topic.isPrefix_levels_iff nonempty undivided topic).2 (.inr ⟨String.ofList rest, ?_⟩)
  rw [← same, ← String.toList_inj, Text.afterStart_eq_some_iff.1 found, String.toList_append,
    String.toList_ofList]

theorem belongs_of_parseTwinResponse {topic : String} {response : Topic.Hub.TwinResponse}
    (read : parseTwinResponse? topic = some response) : Belongs identity topic .twinResponses := by
  obtain ⟨rest, found, _⟩ := Option.bind_eq_some_iff.1 read
  exact ⟨_, .twinResponses, isPrefix_levels_of_afterStart (by simp) (by decide) rfl found⟩

theorem belongs_of_parseDesiredVersion {topic : String} {version : Int}
    (read : parseDesiredVersion? topic = some version) : Belongs identity topic .desiredPatches := by
  obtain ⟨rest, found, _⟩ := Option.bind_eq_some_iff.1 read
  exact ⟨_, .desiredPatches, isPrefix_levels_of_afterStart (by simp) (by decide) rfl found⟩

theorem belongs_of_parseMethodRequest {topic : String} {request : String × String}
    (read : parseMethodRequest? topic = some request) : Belongs identity topic .methodRequests := by
  obtain ⟨rest, found, _⟩ := Option.bind_eq_some_iff.1 read
  exact ⟨_, .methodRequests, isPrefix_levels_of_afterStart (by simp) (by decide) rfl found⟩

/-- How the routes of a client fit the readers of topics. -/
structure Dispatches (identity : Identity) (uplink : Uplink) : Prop where
  /-- The filters of no two routes match the same topic. -/
  apart : uplink.router.routes.Pairwise fun one other =>
    ∀ topic, ¬ (one.1.matchesTopic topic = true ∧ other.1.matchesTopic topic = true)
  /-- The routes could be registered in any order. -/
  inAnyOrder : ∀ order, order.Perm (routes identity) → ∃ router, registerAll {} order = .ok router ∧
    ∀ topic, router.route topic = uplink.router.route topic
  twinResponse : ∀ topic response, parseTwinResponse? topic = some response →
    uplink.router.route topic = some .twinResponses
  desiredPatch : ∀ topic version, parseDesiredVersion? topic = some version →
    uplink.router.route topic = some .desiredPatches
  methodRequest : ∀ topic request, parseMethodRequest? topic = some request →
    uplink.router.route topic = some .methodRequests
  /-- A message to the device comes with any bag. -/
  deviceMessage : identity.isModule = false → ∀ bag payload,
    uplink.router.route ("devices/" ++ identity.device ++ "/messages/devicebound/" ++ bag) =
        some .deviceMessages ∧
      ∃ message, parseDeviceMessage
        ("devices/" ++ identity.device ++ "/messages/devicebound/" ++ bag) payload = .ok message
  noDeviceMessage : identity.isModule = true → ∀ topic,
    uplink.router.route topic ≠ some .deviceMessages

theorem dispatches_of_new (created : new identity settings = .ok uplink) : Dispatches identity uplink := by
  have routed : ∀ {topic destination}, Belongs identity topic destination →
      uplink.router.route topic = some destination :=
    fun belongs => (route_eq_some_iff_belongs created (.refl _) _ _).2 belongs
  constructor
  case apart =>
    have distinct : (uplink.router.routes.map Prod.snd).Nodup := by
      rw [destinations_of_new created]
      cases identity.isModule <;> decide
    refine (List.pairwise_map.1 distinct).imp_of_mem fun {one other} member member' foreign topic both => ?_
    have own := (matchesTopic_iff_belongs created member topic).1 both.1
    exact foreign (own.unique ((matchesTopic_iff_belongs created member' topic).1 both.2))
  case inAnyOrder =>
    intro order perm
    obtain ⟨router', registered', perm'⟩ := registerAll_perm perm (registered_of_new created)
    refine ⟨router', registered', fun topic => Option.ext fun destination => ?_⟩
    rw [route_eq_some_iff_belongs created perm', route_eq_some_iff_belongs created (.refl _)]
  case twinResponse => exact fun _ _ read => routed (belongs_of_parseTwinResponse read)
  case desiredPatch => exact fun _ _ read => routed (belongs_of_parseDesiredVersion read)
  case methodRequest => exact fun _ _ read => routed (belongs_of_parseMethodRequest read)
  case deviceMessage =>
    intro device bag payload
    refine ⟨routed ?_, _, Topic.Hub.parseDeviceMessage_append identity bag payload⟩
    have undivided := Topic.Hub.slash_not_mem_device identity
    refine ⟨_, .deviceMessages identity.device device undivided (.inr rfl), ?_⟩
    refine (Topic.Hub.isForDevice_iff undivided _).1 (.inr ⟨bag, ?_⟩)
    simp only [Topic.Hub.deviceBase, String.append_assoc]
    rfl
  case noDeviceMessage =>
    intro module topic same
    obtain ⟨_, begins, _⟩ := (route_eq_some_iff_belongs created (.refl _) _ _).1 same
    cases begins
    simp_all

theorem isComponent_of_mem_display : ∀ name ∈ some "display", isComponent name = true := by
  rintro _ ⟨⟩
  rfl

/-- The identity of a module on the thermometer. -/
def display : Identity where
  device := thermometer.device
  module? := some "display"
  device_valid := thermometer.device_valid
  module_valid := isComponent_of_mem_display

/-- Both the device and its module have a client; a bag with a slash comes to that of the device. -/
theorem dispatches_of_new_thermometer :
    (∃ uplink, new thermometer {} = .ok uplink ∧ Dispatches thermometer uplink ∧
      uplink.router.route "devices/thermometer/messages/devicebound/on=1/off=0" =
        some .deviceMessages) ∧
    ∃ uplink, new display {} = .ok uplink ∧ Dispatches display uplink ∧
      uplink.router.route "devices/thermometer/messages/devicebound/on=1/off=0" = none := by
  have device := (@new_eq_ok_iff thermometer {} _ rfl).2 ⟨_, rfl, rfl⟩
  have module : new display {} = .ok (fresh display {} ⟨hubRoutes⟩) := rfl
  have dispatches := dispatches_of_new device
  exact ⟨⟨_, device, dispatches, (dispatches.deviceMessage rfl "on=1/off=0" []).1⟩,
    _, module, dispatches_of_new module, by decide +kernel⟩

end DeviceGateway.Uplink
