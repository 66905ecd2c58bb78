/-
# Messages go to the earliest filter that matches

A router is told filters and messages in any order.  Whatever it was told before, a message goes to the
handler of the earliest filter that matches its topic among those that were accepted, and to no other; what
this handler answers is the answer.  A message that no filter matches is ignored, and a text that is no
filter leaves no trace.
-/

import DeviceGateway.Proofs.Topic.Filter
import DeviceGateway.Text.Utf8
import DeviceGateway.Topic.Router

namespace DeviceGateway.Topic

/-! ## Which texts are filters, and what they match -/

namespace Filter

/-- Which texts are filters, and what is wrong with the others. -/
structure Grammar (raw : String) : Prop where
  accepted : (∃ filter, compile raw = .ok filter) ↔ raw ≠ "" ∧
    ∀ first level rest, Topic.levels raw = first ++ level :: rest →
      level = "+" ∨ level = "#" ∧ rest = [] ∨ Plain level
  empty : raw = "" → compile raw = .error .empty
  /-- The leftmost level that may not stand in its place decides. -/
  leftmost : raw ≠ "" → ∀ fault, compile raw = .error fault ↔ Offends raw (Topic.levels raw) fault

/-- What the filter of a text matches. -/
structure Meaning (raw : String) (filter : Filter) : Prop where
  beginning : ∀ first, Topic.levels raw = first ++ ["#"] → ∀ topic,
    filter.matchesTopic topic = true ↔
      first.length ≤ (Topic.levels topic).length ∧ Agree first (Topic.levels topic)
  whole : (Topic.levels raw).getLast? ≠ some "#" → ∀ topic,
    filter.matchesTopic topic = true ↔
      (Topic.levels topic).length = (Topic.levels raw).length ∧
        Agree (Topic.levels raw) (Topic.levels topic)

theorem grammar (raw : String) : Grammar raw where
  accepted := by
    simp only [compile_eq_ok_iff, mayPrecede_iff]
    exact ⟨fun ⟨_, filled, _, may⟩ => ⟨filled, may⟩, fun ⟨filled, may⟩ => ⟨_, filled, rfl, may⟩⟩
  empty empty := compile_eq_error_iff.2 (.inl ⟨empty, rfl⟩)
  leftmost filled fault := by simp [compile_eq_error_iff, filled]

theorem meaning {raw : String} {filter : Filter} (compiled : compile raw = .ok filter) :
    Meaning raw filter := by
  obtain ⟨_, rfl, may⟩ := compile_eq_ok_iff.1 compiled
  -- Nothing stands behind `#`.
  have last : ∀ {first rest}, Topic.levels raw = first ++ "#" :: rest → rest = [] :=
    fun same => eq_nil_of_mayPrecede (may _ _ _ same)
  constructor
  case beginning =>
    intro first same topic
    have plain : "#" ∉ first := by
      intro member
      obtain ⟨before, after, rfl⟩ := List.append_of_mem member
      rw [List.append_assoc] at same
      exact absurd (last same) (by simp)
    simp only [matchesTopic, same, List.map_append]
    rw [accepts_map_append_iff plain]
    exact ⟨fun ⟨long, agree, _⟩ => ⟨long, agree⟩, fun ⟨long, agree⟩ => ⟨long, agree, rfl⟩⟩
  case whole =>
    intro other topic
    have plain : "#" ∉ Topic.levels raw := by
      intro member
      obtain ⟨before, after, same⟩ := List.append_of_mem member
      obtain rfl := last same
      exact other (by simp [same])
    have nothing : ∀ names, accepts [] names = names.isEmpty := fun _ => rfl
    have matched := accepts_map_append_iff plain [] (Topic.levels topic)
    rw [List.append_nil, nothing, List.isEmpty_iff, List.drop_eq_nil_iff] at matched
    rw [matchesTopic, matched]
    constructor
    · exact fun ⟨long, agree, short⟩ => ⟨Nat.le_antisymm short long, agree⟩
    · exact fun ⟨same, agree⟩ => ⟨Nat.le_of_eq same.symm, agree, Nat.le_of_eq same⟩

end Filter

namespace Router

/-! ## Routes in any order -/

/-- Where all routes that match a topic lead to the same destination, their order makes no difference. -/
theorem route_eq_some_iff_of_alone {α : Type} {router : Router α} {topic : String}
    (alone : ∀ one ∈ router.routes, ∀ other ∈ router.routes, one.1.matchesTopic topic = true →
      other.1.matchesTopic topic = true → one.2 = other.2) (destination : α) :
    router.route topic = some destination ↔
      ∃ entry ∈ router.routes, entry.1.matchesTopic topic = true ∧ entry.2 = destination := by
  constructor
  · intro routed
    obtain ⟨entry, found, same⟩ := Option.map_eq_some_iff.1 routed
    have matched := List.find?_some found
    exact ⟨entry, List.mem_of_find?_eq_some found, matched, same⟩
  · rintro ⟨entry, member, matched, rfl⟩
    obtain ⟨first, found⟩ := Option.isSome_iff_exists.1
      (List.find?_isSome.2 ⟨entry, member, matched⟩ :
        (router.routes.find? fun entry => entry.1.matchesTopic topic).isSome = true)
    have matched' := List.find?_some found
    rw [route, found, Option.map_some, Option.some_inj]
    exact alone first (List.mem_of_find?_eq_some found) entry member matched' matched

/-! ## Runs of a router -/

/-- What a router is told. -/
inductive Call (α : Type) where
  | register (raw : String) (handler : α)
  | message (topic : String) (payload : Bytes)

/-- What comes back. -/
inductive Reply (ε β : Type) where
  | registered
  | refused (fault : FilterFault)
  | answered (answer : Except ε β)

/-- A router and the state that the handlers of messages change. -/
structure Run (α σ : Type) where
  router : Router α := {}
  state : σ

variable {α σ ε β : Type} [Inhabited β]

section

variable (handle : α → String → Bytes → σ → σ × Except ε β)

/-- What a router does when it is told something. -/
def act (run : Run α σ) : Call α → Run α σ × Reply ε β
  | .register raw handler =>
    match run.router.register raw handler with
    | .ok router => ({ run with router }, .registered)
    | .error fault => (run, .refused fault)
  | .message topic payload =>
    match run.router.route topic with
    | some handler =>
      let (state, answer) := handle handler topic payload run.state
      ({ run with state }, .answered answer)
    | none => (run, .answered (.ok default))

def run (start : Run α σ) (calls : List (Call α)) : Run α σ :=
  calls.foldl (fun run call => (act handle run call).1) start

end

/-- Whether a filter that matches a topic is registered for a handler. -/
def Registers (topic : String) (call : Call α) (handler : α) : Prop :=
  ∃ raw filter, call = .register raw handler ∧ Filter.compile raw = .ok filter ∧
    filter.matchesTopic topic = true

/-- Whether the earliest filter that matches a topic was registered for a handler. -/
def Takes (calls : List (Call α)) (topic : String) (handler : α) : Prop :=
  ∃ before call after, calls = before ++ call :: after ∧ Registers topic call handler ∧
    ∀ earlier ∈ before, ∀ other, ¬ Registers topic earlier other

/-- The route that a call adds. -/
def entryOf : Call α → Option (Filter × α)
  | .register raw handler => (Filter.compile raw).toOption.map (·, handler)
  | .message _ _ => none

theorem entryOf_eq_some_iff {call : Call α} {filter : Filter} {handler : α} :
    entryOf call = some (filter, handler) ↔
      ∃ raw, call = .register raw handler ∧ Filter.compile raw = .ok filter := by
  cases call with
  | message topic payload => simp [entryOf]
  | register raw other =>
    cases compiled : Filter.compile raw with
    | error fault => simp [entryOf, compiled, Except.toOption]
    | ok own => simp [entryOf, compiled, Except.toOption, and_comm, eq_comm]

theorem registers_iff {topic : String} {call : Call α} {handler : α} : Registers topic call handler ↔
    ∃ filter, entryOf call = some (filter, handler) ∧ filter.matchesTopic topic = true := by
  simp only [Registers, entryOf_eq_some_iff]
  constructor
  · rintro ⟨raw, filter, rfl, compiled, matched⟩
    exact ⟨filter, ⟨raw, rfl, compiled⟩, matched⟩
  · rintro ⟨filter, ⟨raw, rfl, compiled⟩, matched⟩
    exact ⟨raw, filter, rfl, compiled, matched⟩

variable {handle : α → String → Bytes → σ → σ × Except ε β}

theorem routes_act (run : Run α σ) (call : Call α) :
    (act handle run call).1.router.routes = run.router.routes ++ (entryOf call).toList := by
  cases call with
  | register raw handler =>
    cases compiled : Filter.compile raw <;>
      simp [act, register, entryOf, compiled, Except.map, Except.toOption]
  | message topic payload =>
    cases routed : run.router.route topic <;> simp [act, entryOf, routed]

/-- The routes are those of the filters that were accepted, in their order. -/
theorem routes_run (start : Run α σ) (calls : List (Call α)) :
    (run handle start calls).router.routes = start.router.routes ++ calls.filterMap entryOf := by
  induction calls generalizing start with
  | nil => simp [run]
  | cons call rest ih =>
    have later := ih (act handle start call).1
    rw [routes_act] at later
    rw [run, List.foldl_cons, ← run, later]
    cases added : entryOf call <;> simp [added]

theorem registers_isSome_iff {topic : String} {call : Call α} :
    ((entryOf call).any fun entry => entry.1.matchesTopic topic) = true ↔
      ∃ handler, Registers topic call handler := by
  simp only [registers_iff, Option.any_eq_true]
  constructor
  · exact fun ⟨⟨filter, handler⟩, entered, matched⟩ => ⟨handler, filter, entered, matched⟩
  · exact fun ⟨handler, filter, entered, matched⟩ => ⟨(filter, handler), entered, matched⟩

/-- A message goes to the handler of the earliest filter that matches. -/
theorem route_run_eq_some_iff (handle : α → String → Bytes → σ → σ × Except ε β) (state : σ)
    (calls : List (Call α)) (topic : String) (handler : α) :
    (run handle { state } calls).router.route topic = some handler ↔ Takes calls topic handler := by
  have found : (run handle { state } calls).router.route topic =
      ((calls.find? fun call => (entryOf call).any fun entry => entry.1.matchesTopic topic).bind
        entryOf).map Prod.snd := by
    rw [route, routes_run, List.nil_append, List.find?_filterMap]
  rw [found]
  constructor
  · intro routed
    obtain ⟨⟨filter, _⟩, entered, rfl⟩ := Option.map_eq_some_iff.1 routed
    obtain ⟨call, first, entered⟩ := Option.bind_eq_some_iff.1 entered
    obtain ⟨matched, before, after, same, earlier⟩ := List.find?_eq_some_iff_append.1 first
    rw [entered] at matched
    refine ⟨before, call, after, same, registers_iff.2 ⟨filter, entered, matched⟩, ?_⟩
    intro other member handler registers
    have refused := earlier other member
    rw [registers_isSome_iff.2 ⟨handler, registers⟩] at refused
    cases refused
  · rintro ⟨before, call, after, same, registers, earlier⟩
    have first : (calls.find? fun call => (entryOf call).any fun entry =>
        entry.1.matchesTopic topic) = some call := by
      refine List.find?_eq_some_iff_append.2
        ⟨registers_isSome_iff.2 ⟨handler, registers⟩, before, after, same, ?_⟩
      intro other member
      rw [Bool.not_eq_true', ← Bool.not_eq_true, registers_isSome_iff]
      exact fun ⟨handler, registers⟩ => earlier other member handler registers
    obtain ⟨filter, entered, _⟩ := registers_iff.1 registers
    rw [first, Option.bind_some, entered]
    rfl

/-- What a router does at the end of a run, by what it was told. -/
structure RoutesFirst (handle : α → String → Bytes → σ → σ × Except ε β) (calls : List (Call α))
    (run : Run α σ) : Prop where
  /-- The handler gets the topic and the payload as they are, and its answer is the answer. -/
  handled : ∀ topic payload handler, Takes calls topic handler →
    act handle run (.message topic payload) =
      ({ run with state := (handle handler topic payload run.state).1 },
        .answered (handle handler topic payload run.state).2)
  /-- No other handler takes the message as well. -/
  alone : ∀ topic one other, Takes calls topic one → Takes calls topic other → one = other
  unmatched : ∀ topic payload, (∀ handler, ¬ Takes calls topic handler) →
    act handle run (.message topic payload) = (run, .answered (.ok default))
  /-- A filter is added behind the others. -/
  registered : ∀ raw handler filter, Filter.compile raw = .ok filter →
    act handle run (.register raw handler) =
      ({ run with router := ⟨run.router.routes ++ [(filter, handler)]⟩ }, .registered)
  refused : ∀ raw handler fault, Filter.compile raw = .error fault →
    act handle run (.register raw handler) = (run, .refused fault)

theorem routesFirst_run (state : σ) (calls : List (Call α)) :
    RoutesFirst handle calls (run handle { state } calls) := by
  constructor
  case handled =>
    intro topic payload handler takes
    simp only [act, (route_run_eq_some_iff handle state calls topic handler).2 takes]
  case alone =>
    intro topic one other takes takes'
    have routed := (route_run_eq_some_iff handle state calls topic one).2 takes
    rw [(route_run_eq_some_iff handle state calls topic other).2 takes'] at routed
    exact (Option.some.inj routed).symm
  case unmatched =>
    intro topic payload nobody
    have nowhere : (run handle { state } calls).router.route topic = none := by
      rw [Option.eq_none_iff_forall_ne_some]
      intro handler routed
      exact nobody handler ((route_run_eq_some_iff handle state calls topic handler).1 routed)
    simp only [act, nowhere]
  case registered =>
    intro raw handler filter compiled
    simp only [act, register, compiled, Except.map]
  case refused =>
    intro raw handler fault compiled
    simp only [act, register, compiled, Except.map]

end Router

/-- What filters and routers do is fixed by what filters mean. -/
structure FollowsFilters {α σ ε β : Type} [Inhabited β]
    (handle : α → String → Bytes → σ → σ × Except ε β) : Prop where
  grammar : ∀ raw, Filter.Grammar raw
  meaning : ∀ raw filter, Filter.compile raw = .ok filter → Filter.Meaning raw filter
  earliest : ∀ state calls, Router.RoutesFirst handle calls (Router.run handle { state } calls)

theorem followsFilters {α σ ε β : Type} [Inhabited β]
    (handle : α → String → Bytes → σ → σ × Except ε β) : FollowsFilters handle where
  grammar := Filter.grammar
  meaning _ _ := Filter.meaning
  earliest := Router.routesFirst_run

end DeviceGateway.Topic
