/-
# What subscriptions ask for

A reference for the calls by which an owner binds listeners, subscribes and closes a session.  A plan says
who listens and to what; each call has one effect on it and one answer.  What a plan comes to is also said
of the calls themselves: everything hangs on the listener that was bound last, and on the last call since
then that was about a category.

Calls about different categories commute, and the same call made again changes nothing.
-/

import DeviceGateway.Proofs.Since
import DeviceGateway.Session.Subscription
import Mathlib.Data.List.Induction

namespace DeviceGateway.Session

/-- The category that a callback belongs to. -/
def Category.ofKind : CallbackKind → Category
  | .method => methods
  | .desired => desiredProperties

@[simp]
theorem Category.command?_ofKind (kind : CallbackKind) (add : Bool) :
    (Category.ofKind kind).command? add = some (if add then .install kind else .remove kind) := by
  cases kind <;> cases add <;> rfl

/-- A call of an owner that has to do with subscriptions. -/
inductive Ask where
  | bind (listener : Listener)
  | subscribe (category : Category) (add : Bool)
  | close
deriving DecidableEq

/-- The command for a call; for some there is nothing to do. -/
def Ask.command? : Ask → Option Command
  | bind listener => some (.bind listener)
  | subscribe category add => category.command? add
  | close => some .close

def Ask.isBind : Ask → Bool
  | bind _ => true
  | _ => false

/-- What a call is answered, by the calls that were made before it. -/
def Ask.answer (target : String) (before : List Ask) : Ask → Result
  | bind _ => .done (if close ∈ before then .error (.sessionClosed target) else .ok ())
  | subscribe category add =>
    .done (if (category.command? add).isNone then .ok ()
      else if close ∈ before then .error (.sessionClosed target)
      else if before.any isBind then .ok ()
      else .error (.receiverNotBound target))
  | close => .closed true

/-- What a session is to do. -/
structure Plan where
  active : Bool := true
  /-- The listener that was bound last. -/
  listener? : Option Listener := none
  /-- The callbacks that the client is to have. -/
  wants : CallbackKind → Bool := fun _ => false
  /-- Whether messages are to be received. -/
  listens : Bool := false

namespace Plan

def put (plan : Plan) (kind : CallbackKind) (wanted : Bool) : Plan :=
  { plan with wants := fun other => if other = kind then wanted else plan.wants other }

/-- What subscribing to a category changes, or unsubscribing from it. -/
def take (plan : Plan) : Category → Bool → Plan
  | .methods, add => plan.put .method add
  | .desiredProperties, add => plan.put .desired add
  | .messages, true => { plan with listens := true }
  | .messages, false | .twinResponses, _ | .moduleMessages, _ => plan

/-- A plan after one more call. -/
def next (plan : Plan) : Ask → Plan
  | .bind listener => if plan.active then { listener? := some listener } else plan
  | .subscribe category add => if plan.listener?.isSome then plan.take category add else plan
  | .close => { active := false }

/-- What a call is answered. -/
def reply (target : String) (plan : Plan) : Ask → Result
  | .bind _ => .done (if plan.active then .ok () else .error (.sessionClosed target))
  | .subscribe category add =>
    .done (if (category.command? add).isNone then .ok ()
      else if !plan.active then .error (.sessionClosed target)
      else if plan.listener?.isNone then .error (.receiverNotBound target)
      else .ok ())
  | .close => .closed true

/-- The callback that the client is to have. -/
def callback? (target : String) (plan : Plan) (kind : CallbackKind) : Option Callback :=
  if plan.wants kind then plan.listener?.map (.toListener · target) else none

/-- What calls ask for. -/
def of (asked : List Ask) : Plan := asked.foldl next {}

/-- What calls are answered, from a plan on. -/
def replies (target : String) (plan : Plan) : List Ask → List Result
  | [] => []
  | ask :: asked => plan.reply target ask :: (plan.next ask).replies target asked

theorem of_append_singleton (asked : List Ask) (ask : Ask) : of (asked ++ [ask]) = (of asked).next ask :=
  List.foldl_concat ..

theorem length_replies (target : String) (plan : Plan) (asked : List Ask) :
    (plan.replies target asked).length = asked.length := by
  induction asked generalizing plan with
  | nil => rfl
  | cons ask asked ih => exact congrArg Nat.succ (ih _)

theorem getElem?_replies (target : String) (plan : Plan) (before after : List Ask) (ask : Ask) :
    (plan.replies target (before ++ ask :: after))[before.length]? =
      some ((before.foldl next plan).reply target ask) := by
  induction before generalizing plan with
  | nil => rfl
  | cons first before ih => exact ih _

theorem replies_append_singleton (target : String) (plan : Plan) (asked : List Ask) (ask : Ask) :
    plan.replies target (asked ++ [ask]) =
      plan.replies target asked ++ [(asked.foldl next plan).reply target ask] := by
  induction asked generalizing plan with
  | nil => rfl
  | cons first asked ih => simp [replies, ih]

/-! ## Laws of the reference -/

@[simp]
theorem take_ofKind (plan : Plan) (kind : CallbackKind) (add : Bool) :
    plan.take (.ofKind kind) add = plan.put kind add := by
  cases kind <;> rfl

@[simp]
theorem listener?_take (plan : Plan) (category : Category) (add : Bool) :
    (plan.take category add).listener? = plan.listener? := by
  cases category <;> cases add <;> rfl

@[simp]
theorem active_take (plan : Plan) (category : Category) (add : Bool) :
    (plan.take category add).active = plan.active := by
  cases category <;> cases add <;> rfl

/-- A subscription closes no session and binds no listener. -/
@[simp]
theorem active_next_subscribe (plan : Plan) (category : Category) (add : Bool) :
    (plan.next (.subscribe category add)).active = plan.active := by
  simp only [next]
  split <;> simp

@[simp]
theorem listener?_next_subscribe (plan : Plan) (category : Category) (add : Bool) :
    (plan.next (.subscribe category add)).listener? = plan.listener? := by
  simp only [next]
  split <;> simp

theorem put_comm (plan : Plan) {kind other : CallbackKind} (apart : kind ≠ other)
    (wanted wanted' : Bool) :
    (plan.put kind wanted).put other wanted' = (plan.put other wanted').put kind wanted := by
  simp only [put]
  congr 1
  funext third
  split
  case isTrue same => rw [same, if_neg apart.symm]
  case isFalse => rfl

theorem put_put (plan : Plan) (kind : CallbackKind) (wanted : Bool) :
    (plan.put kind wanted).put kind wanted = plan.put kind wanted := by
  simp only [put]
  congr 1
  funext other
  split <;> rfl

/-- Subscriptions to different categories commute. -/
theorem next_comm (plan : Plan) {category other : Category} (apart : category ≠ other)
    (add add' : Bool) :
    (plan.next (.subscribe category add)).next (.subscribe other add') =
      (plan.next (.subscribe other add')).next (.subscribe category add) := by
  cases bound : plan.listener?.isSome with
  | false => simp [next, bound]
  | true =>
    simp only [next, bound, if_true, listener?_take]
    cases category <;> cases other <;> first
      | exact absurd rfl apart
      | exact put_comm plan (by decide) _ _
      | cases add <;> cases add' <;> rfl

/-- Subscribing twice is subscribing once. -/
theorem next_next (plan : Plan) (category : Category) (add : Bool) :
    (plan.next (.subscribe category add)).next (.subscribe category add) =
      plan.next (.subscribe category add) := by
  cases bound : plan.listener?.isSome with
  | false => simp [next, bound]
  | true =>
    simp only [next, bound, if_true, listener?_take]
    cases category with
    | methods | desiredProperties => exact put_put ..
    | messages | twinResponses | moduleMessages => cases add <;> rfl

/-- Where there is nothing to do, nothing is changed. -/
theorem next_of_idle (plan : Plan) {category : Category} {add : Bool}
    (idle : category.command? add = none) : plan.next (.subscribe category add) = plan := by
  simp only [next]
  split
  case isTrue => cases category <;> cases add <;> first | rfl | cases idle
  case isFalse => rfl

theorem of_comm (before after : List Ask) {category other : Category} (apart : category ≠ other)
    (add add' : Bool) :
    of (before ++ .subscribe category add :: .subscribe other add' :: after) =
      of (before ++ .subscribe other add' :: .subscribe category add :: after) := by
  simp only [of, List.foldl_append, List.foldl_cons, next_comm _ apart]

theorem of_twice (before after : List Ask) (category : Category) (add : Bool) :
    of (before ++ .subscribe category add :: .subscribe category add :: after) =
      of (before ++ .subscribe category add :: after) := by
  simp only [of, List.foldl_append, List.foldl_cons, next_next]

/-! ## What the calls say -/

/-- The last listener that was bound, with the calls since then, of a session that was not closed. -/
structure LatestBind (asked : List Ask) (listener : Listener) (since : List Ask) : Prop where
  opened : .close ∉ asked
  split : ∃ before, asked = before ++ .bind listener :: since
  latest : ∀ other, .bind other ∉ since

/-- The last call about the category of a callback was an addition. -/
def EndsInAdd (kind : CallbackKind) (since : List Ask) : Prop :=
  Since (.subscribe (.ofKind kind) true) (· ≠ .subscribe (.ofKind kind) false) since

theorem not_latestBind_nil {listener : Listener} {since : List Ask} : ¬ LatestBind [] listener since := by
  rintro ⟨_, ⟨before, whole⟩, _⟩
  simp at whole

theorem latestBind_append_bind {asked since : List Ask} {listener other : Listener} :
    LatestBind (asked ++ [.bind other]) listener since ↔
      .close ∉ asked ∧ listener = other ∧ since = [] := by
  constructor
  · rintro ⟨opened, ⟨before, whole⟩, latest⟩
    cases since using List.reverseRecOn with
    | nil =>
      obtain ⟨rfl, same⟩ := List.append_inj' whole rfl
      cases same
      exact ⟨fun member => opened (List.mem_append_left _ member), rfl, rfl⟩
    | append_singleton rest last =>
      rw [← List.cons_append, ← List.append_assoc] at whole
      obtain ⟨_, same⟩ := List.append_inj' whole rfl
      cases same
      exact absurd (List.mem_append_right rest (List.mem_singleton_self _)) (latest other)
  · rintro ⟨opened, rfl, rfl⟩
    exact ⟨by simpa using opened, ⟨asked, rfl⟩, nofun⟩

theorem latestBind_append_subscribe {asked since : List Ask} {listener : Listener}
    {category : Category} {add : Bool} :
    LatestBind (asked ++ [.subscribe category add]) listener since ↔
      ∃ earlier, since = earlier ++ [.subscribe category add] ∧ LatestBind asked listener earlier := by
  constructor
  · rintro ⟨opened, ⟨before, whole⟩, latest⟩
    cases since using List.reverseRecOn with
    | nil => cases (List.append_inj' whole rfl).2
    | append_singleton rest last =>
      rw [← List.cons_append, ← List.append_assoc] at whole
      obtain ⟨rfl, same⟩ := List.append_inj' whole rfl
      cases same
      exact ⟨rest, rfl, fun member => opened (List.mem_append_left _ member), ⟨before, rfl⟩,
        fun other member => latest other (List.mem_append_left _ member)⟩
  · rintro ⟨earlier, rfl, opened, ⟨before, rfl⟩, latest⟩
    refine ⟨by simpa using opened, ⟨before, by simp⟩, fun other => ?_⟩
    simpa using latest other

theorem not_latestBind_append_close {asked since : List Ask} {listener : Listener} :
    ¬ LatestBind (asked ++ [.close]) listener since :=
  fun bind => bind.opened (List.mem_append_right _ (List.mem_singleton_self _))

theorem wants_take (plan : Plan) (category : Category) (add : Bool) (kind : CallbackKind) :
    (plan.take category add).wants kind = if category = .ofKind kind then add else plan.wants kind := by
  cases category <;> cases kind <;> cases add <;> rfl

theorem listens_take (plan : Plan) (category : Category) (add : Bool) :
    (plan.take category add).listens = (plan.listens || (category = .messages && add)) := by
  cases category <;> cases add <;> simp [take, put]

/-- What a plan says of the calls that it was made for. -/
structure Tracks (asked : List Ask) (plan : Plan) : Prop where
  active : plan.active = true ↔ .close ∉ asked
  bound : ∀ listener, plan.listener? = some listener ↔ ∃ since, LatestBind asked listener since
  wants : ∀ listener since, LatestBind asked listener since →
    ∀ kind, plan.wants kind = true ↔ EndsInAdd kind since
  listens : ∀ listener since, LatestBind asked listener since →
    (plan.listens = true ↔ .subscribe .messages true ∈ since)

variable {asked : List Ask} {plan : Plan}

theorem Tracks.bind (tracks : Tracks asked plan) (listener : Listener) :
    Tracks (asked ++ [.bind listener]) (plan.next (.bind listener)) := by
  cases open? : plan.active with
  | true =>
    have opened : .close ∉ asked := tracks.active.1 open?
    have fresh : plan.next (.bind listener) = { listener? := some listener } := by simp [next, open?]
    rw [fresh]
    constructor
    case active => simpa using opened
    case bound => simp [latestBind_append_bind, opened, eq_comm]
    case wants =>
      intro other since bind kind
      obtain ⟨_, rfl, rfl⟩ := latestBind_append_bind.1 bind
      simpa [EndsInAdd] using not_since_nil
    case listens =>
      intro other since bind
      obtain ⟨_, rfl, rfl⟩ := latestBind_append_bind.1 bind
      simp
  | false =>
    have closed : .close ∈ asked := by simpa [open?] using tracks.active
    have same : plan.next (.bind listener) = plan := by simp [next, open?]
    have none : ∀ other since, ¬ LatestBind (asked ++ [.bind listener]) other since :=
      fun other since bind => (latestBind_append_bind.1 bind).1 closed
    have unbound : ∀ other, plan.listener? ≠ some other := by
      intro other found
      obtain ⟨since, bind⟩ := (tracks.bound other).1 found
      exact bind.opened closed
    rw [same]
    constructor
    case active => simp [open?, closed]
    case bound => simp [none, unbound]
    case wants | listens => exact fun other since bind => absurd bind (none other since)

theorem Tracks.subscribe (tracks : Tracks asked plan) (category : Category) (add : Bool) :
    Tracks (asked ++ [.subscribe category add]) (plan.next (.subscribe category add)) := by
  -- Where a listener is bound, the call is taken; where none is, there is no plan to speak of.
  have taken : ∀ listener since, LatestBind (asked ++ [.subscribe category add]) listener since →
      ∃ earlier, since = earlier ++ [.subscribe category add] ∧ LatestBind asked listener earlier ∧
        plan.next (.subscribe category add) = plan.take category add := by
    intro listener since bind
    obtain ⟨earlier, rfl, before⟩ := latestBind_append_subscribe.1 bind
    have bound := (tracks.bound listener).2 ⟨earlier, before⟩
    exact ⟨earlier, rfl, before, by simp [next, bound]⟩
  constructor
  case active => simpa using tracks.active
  case bound =>
    intro listener
    rw [listener?_next_subscribe, tracks.bound]
    simp [latestBind_append_subscribe]
  case wants =>
    intro listener since bind kind
    obtain ⟨earlier, rfl, bind, same⟩ := taken listener since bind
    have before := tracks.wants listener earlier bind kind
    rw [same, wants_take, EndsInAdd, since_append_singleton_iff, ← EndsInAdd]
    by_cases own : category = .ofKind kind
    · cases add <;> simp [own]
    · simp [own, before]
  case listens =>
    intro listener since bind
    obtain ⟨earlier, rfl, bind, same⟩ := taken listener since bind
    have before := tracks.listens listener earlier bind
    rw [same, listens_take]
    by_cases own : category = .messages
    · cases add <;> simp [own, before]
    · simp [own, Ne.symm own, before]

theorem tracks_of (asked : List Ask) : Tracks asked (of asked) := by
  induction asked using List.reverseRecOn with
  | nil =>
    constructor
    case active => simp [of]
    case bound => simp [of, not_latestBind_nil]
    case wants | listens => exact fun _ _ bind => absurd bind not_latestBind_nil
  | append_singleton asked ask ih =>
    rw [of_append_singleton]
    cases ask with
    | bind listener => exact ih.bind listener
    | subscribe category add => exact ih.subscribe category add
    | close =>
      constructor
      case active => simp [next]
      case bound => simp [next, not_latestBind_append_close]
      case wants | listens => exact fun _ _ bind => absurd bind not_latestBind_append_close

/-- Nobody listens to a session that is closed. -/
theorem listener?_of_closed (closed : (of asked).active = false) : (of asked).listener? = none := by
  rw [Option.eq_none_iff_forall_not_mem]
  intro listener found
  have tracks := tracks_of asked
  obtain ⟨since, bind⟩ := (tracks.bound listener).1 found
  rw [tracks.active.2 bind.opened] at closed
  cases closed

/-- Somebody listens to an open session exactly if somebody was bound. -/
theorem isSome_listener?_of (opened : .close ∉ asked) :
    (of asked).listener?.isSome = asked.any Ask.isBind := by
  induction asked using List.reverseRecOn with
  | nil => rfl
  | append_singleton asked ask ih =>
    have before : .close ∉ asked := fun member => opened (List.mem_append_left _ member)
    have active := (tracks_of asked).active.2 before
    rw [of_append_singleton, List.any_append]
    cases ask with
    | bind listener => simp [next, active, Ask.isBind]
    | subscribe category add => simp [ih before, Ask.isBind]
    | close => simp at opened

/-- The answers of the reference, by the calls that were made before. -/
theorem reply_of (target : String) (asked : List Ask) (ask : Ask) :
    (of asked).reply target ask = ask.answer target asked := by
  have tracks := tracks_of asked
  by_cases closed : .close ∈ asked
  · have inactive : (of asked).active = false := by simpa [closed] using tracks.active
    cases ask <;> simp [reply, Ask.answer, closed, inactive]
  · have active : (of asked).active = true := tracks.active.2 closed
    have bound := isSome_listener?_of closed
    cases ask with
    | subscribe category add =>
      cases listener : (of asked).listener? <;> rw [listener] at bound <;>
        simp [reply, Ask.answer, closed, active, listener, ← bound]
    | bind | close => simp [reply, Ask.answer, closed, active]

end Plan

end DeviceGateway.Session
