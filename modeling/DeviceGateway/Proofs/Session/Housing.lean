/-
# A session as planned

Between two calls a session has the inbox that its plan says, with the notes and the receive loop that it
says, and the client has the callbacks of the plan.  While the bound inbox carries out a subscription, what
it has noted and what the client has may each be one step behind the other.
-/

import DeviceGateway.Proofs.Session.Solo

namespace DeviceGateway.Session

/-- The bound inbox does what is planned for its listener. -/
structure Serves (target : String) (plan : Plan) (listener : Listener) (inbox : Inbox) : Prop where
  listener : inbox.listener = listener
  target : inbox.target = target
  opened : inbox.cancelled = false
  noted : ∀ kind, inbox.noted kind = plan.wants kind
  listens : inbox.isListening = plan.listens

/-- A session has the inbox that is planned, and all others are closed; one may still be about to be. -/
structure Houses (identity : Identity) (plan : Plan) (leaving : Option Nat) (session : Session) :
    Prop where
  owner : session.identity = identity
  active : session.active = plan.active
  unbound : plan.listener? = none → session.bound = none
  bound : ∀ listener, plan.listener? = some listener → ∃ number inbox, session.bound = some number ∧
    session.inboxes[number]? = some inbox ∧ Serves identity.toText plan listener inbox
  others : ∀ (number : Nat) inbox, session.inboxes[number]? = some inbox →
    session.bound ≠ some number → leaving ≠ some number → inbox.cancelled = true

/-- The client has the callbacks that are planned. -/
def Offers (target : String) (plan : Plan) (callbacks : Callbacks) : Prop :=
  ∀ kind, callbacks kind = plan.callback? target kind

variable {identity : Identity} {plan : Plan} {leaving : Option Nat} {session : Session}
  {number : Nat} {inbox inbox' : Inbox} {listener : Listener} {callbacks : Callbacks} {target : String}

theorem Houses.exists_serves (houses : Houses identity plan leaving session)
    (planned : plan.listener? = some listener) (bound : session.bound = some number) :
    ∃ inbox, session.inboxes[number]? = some inbox ∧ Serves identity.toText plan listener inbox := by
  obtain ⟨number', inbox, bound', found, serves⟩ := houses.bound listener planned
  obtain rfl := Option.some.inj (bound.symm.trans bound')
  exact ⟨inbox, found, serves⟩

/-- The bound inbox is the one that is planned. -/
theorem Houses.serves (houses : Houses identity plan leaving session)
    (planned : plan.listener? = some listener) (bound : session.bound = some number)
    (found : session.inboxes[number]? = some inbox) : Serves identity.toText plan listener inbox := by
  obtain ⟨inbox', found', serves⟩ := houses.exists_serves planned bound
  obtain rfl := Option.some.inj (found.symm.trans found')
  exact serves

/-- Between two calls, every inbox is closed but the one that is bound. -/
theorem Houses.shut (houses : Houses identity plan none session)
    (found : session.inboxes[number]? = some inbox) (unbound : session.bound ≠ some number) :
    inbox.cancelled = true :=
  houses.others number inbox found unbound (Option.some_ne_none number).symm

/-- The bound inbox changes, and what is planned with it. -/
theorem Houses.put_bound (houses : Houses identity plan leaving session)
    (bound : session.bound = some number)
    (found : session.inboxes[number]? = some inbox) {plan' : Plan} (same : plan'.active = plan.active)
    (planned' : plan'.listener? = some listener)
    (serves : Serves identity.toText plan' listener inbox') :
    Houses identity plan' leaving (session.putInbox number inbox') := by
  have within := (List.getElem?_eq_some_iff.1 found).1
  constructor
  case owner => exact houses.owner
  case active => exact houses.active.trans same.symm
  case unbound =>
    intro none
    rw [planned'] at none
    cases none
  case bound =>
    intro other found'
    obtain rfl := Option.some.inj (planned'.symm.trans found')
    exact ⟨number, inbox', bound, List.getElem?_set_self within, serves⟩
  case others =>
    intro other other' found' unbound stays
    have apart : number ≠ other := by
      rintro rfl
      exact unbound bound
    exact houses.others other other' ((List.getElem?_set_ne apart).symm.trans found') unbound stays

/-- An inbox that is not bound changes. -/
theorem Houses.put_other (houses : Houses identity plan (some number) session)
    (apart : session.bound ≠ some number) (inbox' : Inbox) :
    Houses identity plan (some number) (session.putInbox number inbox') := by
  constructor
  case owner => exact houses.owner
  case active => exact houses.active
  case unbound => exact houses.unbound
  case bound =>
    intro listener planned
    obtain ⟨own, inbox, bound, found, serves⟩ := houses.bound listener planned
    have apart : number ≠ own := by
      rintro rfl
      exact apart bound
    exact ⟨own, inbox, bound, (List.getElem?_set_ne apart).trans found, serves⟩
  case others =>
    intro other other' found unbound stays
    have apart : number ≠ other := fun same => stays (congrArg some same)
    exact houses.others other other' ((List.getElem?_set_ne apart).symm.trans found) unbound stays

/-- Once it is closed, no inbox is left to be closed. -/
theorem Houses.left (houses : Houses identity plan (some number) session)
    (found : session.inboxes[number]? = some inbox) (shut : inbox.cancelled = true) :
    Houses identity plan none session := by
  refine ⟨houses.owner, houses.active, houses.unbound, houses.bound, ?_⟩
  intro other other' found' unbound _
  by_cases same : number = other
  · subst same
    obtain rfl := Option.some.inj (found.symm.trans found')
    exact shut
  · exact houses.others other other' found' unbound fun stays => same (Option.some.inj stays)

theorem Houses.closedFault (houses : Houses identity plan leaving session) :
    session.closedFault = .sessionClosed identity.toText := by
  rw [Session.closedFault, houses.owner]

/-- A client without callbacks offers what is planned for nobody, and what is planned to be offered by
nobody yet. -/
theorem offers_of_bare (bare : ∀ kind, callbacks kind = none)
    (idle : ∀ kind, plan.callback? target kind = none) : Offers target plan callbacks :=
  fun kind => (bare kind).trans (idle kind).symm

theorem callback?_of_unbound (unbound : plan.listener? = none) (kind : CallbackKind) :
    plan.callback? target kind = none := by
  simp [Plan.callback?, unbound]

/-- The bound inbox notes every callback that the client has. -/
theorem Houses.clears_cancel (houses : Houses identity plan none session)
    (bound : session.bound = some number) (offers : Offers identity.toText plan callbacks) :
    ∃ inbox, session.inboxes[number]? = some inbox ∧ inbox.Clears callbacks .cancel := by
  cases planned : plan.listener? with
  | none =>
    rw [houses.unbound planned] at bound
    cases bound
  | some listener =>
    obtain ⟨inbox, found, serves⟩ := houses.exists_serves planned bound
    refine ⟨inbox, found, rfl, .inl rfl, fun kind => ?_⟩
    cases wanted : plan.wants kind with
    | false => exact .inl ((offers kind).trans (by simp [Plan.callback?, wanted]))
    | true => exact .inr (.inl ⟨(serves.noted kind).trans wanted, rfl⟩)

/-- A session without an inbox has a client without callbacks. -/
theorem Houses.bare (houses : Houses identity plan none session) (free : session.bound = none)
    (offers : Offers identity.toText plan callbacks) (kind : CallbackKind) : callbacks kind = none := by
  rw [offers kind]
  apply callback?_of_unbound
  rw [Option.eq_none_iff_forall_not_mem]
  intro listener planned
  obtain ⟨number, inbox, bound, _⟩ := houses.bound listener planned
  rw [free] at bound
  cases bound

/-! ## Receive loops -/

theorem getElem?_mapInbox (session : Session) (number other : Nat) (change : Inbox → Inbox) :
    (session.mapInbox number change).inboxes[other]? =
      session.inboxes[other]?.map fun inbox => if other = number then change inbox else inbox := by
  unfold mapInbox
  split
  case h_1 inbox found =>
    obtain ⟨within, held⟩ := List.getElem?_eq_some_iff.1 found
    by_cases same : other = number
    · subst same
      simp [putInbox, within, held]
    · simp [putInbox, same, List.getElem?_set_ne (Ne.symm same)]
  case h_2 missing =>
    by_cases same : other = number
    · simp [same, missing]
    · simp [same]

theorem exists_loops (found : session.inboxes[number]? = some inbox) (moved : Nat)
    (event : Inbox.LoopEvent) : ∃ after,
      (session.mapInbox moved fun inbox => inbox.onHealthyLoop event).inboxes[number]? = some after ∧
        (after = inbox ∨ after = inbox.onHealthyLoop event) := by
  refine ⟨_, (getElem?_mapInbox ..).trans (congrArg _ found), ?_⟩
  dsimp only
  split <;> [exact .inr rfl; exact .inl rfl]

@[simp]
theorem bound_mapInbox (session : Session) (number : Nat) (change : Inbox → Inbox) :
    (session.mapInbox number change).bound = session.bound := by
  unfold mapInbox
  split <;> rfl

theorem Serves.loops (serves : Serves target plan listener inbox) (event : Inbox.LoopEvent) :
    Serves target plan listener (inbox.onHealthyLoop event) := by
  obtain ⟨loop, same⟩ := inbox.exists_onHealthyLoop event
  have listens := Inbox.isListening_onHealthyLoop serves.opened event
  rw [same] at listens ⊢
  refine ⟨serves.listener, serves.target, serves.opened, fun kind => ?_, listens.trans serves.listens⟩
  rw [← serves.noted kind]
  cases kind <;> rfl

theorem Houses.loops (houses : Houses identity plan leaving session) (number : Nat)
    (event : Inbox.LoopEvent) :
    Houses identity plan leaving (session.mapInbox number fun inbox => inbox.onHealthyLoop event) := by
  constructor
  case owner => exact (evolves_mapInbox ..).identity.trans houses.owner
  case active => exact (active_mapInbox ..).trans houses.active
  case unbound => exact fun unbound => (bound_mapInbox ..).trans (houses.unbound unbound)
  case bound =>
    intro listener planned
    obtain ⟨own, inbox, bound, found, serves⟩ := houses.bound listener planned
    obtain ⟨after, held, rfl | rfl⟩ := exists_loops found number event
    · exact ⟨own, after, (bound_mapInbox ..).trans bound, held, serves⟩
    · exact ⟨own, _, (bound_mapInbox ..).trans bound, held, serves.loops event⟩
  case others =>
    intro other after found unbound stays
    rw [getElem?_mapInbox] at found
    obtain ⟨inbox, held, rfl⟩ := Option.map_eq_some_iff.1 found
    have shut := houses.others other inbox held (by simpa using unbound) stays
    obtain ⟨loop, same⟩ := inbox.exists_onHealthyLoop event
    split <;> [exact (congrArg Inbox.cancelled same).trans shut; exact shut]

/-! ## Subscribing and unsubscribing -/

/-- How far the bound inbox has come with a subscription: what its notes say, and what the client has. -/
inductive Serving (own : Callback) (plan : Plan) : Ask → Inbox.Op → Plan → Plan → Prop
  | install (kind : CallbackKind) :
      Serving own plan (.subscribe (.ofKind kind) true) (.install kind) plan plan
  | installing (kind : CallbackKind) :
      Serving own plan (.subscribe (.ofKind kind) true) (.installing kind own) plan plan
  | installed (kind : CallbackKind) :
      Serving own plan (.subscribe (.ofKind kind) true) (.installed kind) plan (plan.put kind true)
  | confirm (kind : CallbackKind) :
      Serving own plan (.subscribe (.ofKind kind) true) (.confirm kind) (plan.put kind true)
        (plan.put kind true)
  | removing (kind : CallbackKind) :
      Serving own plan (.subscribe (.ofKind kind) false) (.removing kind) plan plan
  | removed (kind : CallbackKind) :
      Serving own plan (.subscribe (.ofKind kind) false) (.removed kind) plan (plan.put kind false)
  | start : Serving own plan (.subscribe .messages true) .start plan plan
  | launch : Serving own plan (.subscribe .messages true) .launch plan plan

variable {own : Callback} {ask : Ask} {inner : Inbox.Op} {notes calls : Plan}

theorem Serving.notes_eq (serving : Serving own plan ask inner notes calls) :
    notes.active = plan.active ∧ notes.listener? = plan.listener? := by
  cases serving <;> exact ⟨rfl, rfl⟩

theorem Serves.note (serves : Serves target plan listener inbox) (kind : CallbackKind)
    (wanted : Bool) : Serves target (plan.put kind wanted) listener (inbox.note kind wanted) := by
  constructor
  case noted =>
    intro other
    by_cases same : other = kind
    · subst same
      simp [Plan.put]
    · simpa [Plan.put, same] using serves.noted other
  all_goals cases kind
  case listener.method | listener.desired => exact serves.listener
  case target.method | target.desired => exact serves.target
  case opened.method | opened.desired => exact serves.opened
  case listens.method | listens.desired => exact serves.listens

theorem Offers.put (offers : Offers target plan callbacks) (planned : plan.listener? = some listener)
    (kind : CallbackKind) (wanted : Bool) : Offers target (plan.put kind wanted)
      (callbacks.put kind (if wanted then some (.toListener listener target) else none)) := by
  intro other
  by_cases same : other = kind
  · subst same
    simp [Callbacks.put, Plan.put, Plan.callback?, planned]
  · simpa [Callbacks.put, Plan.put, Plan.callback?, same] using offers other

/-- What a move of the bound inbox leads to. -/
def ServesOn (target : String) (plan : Plan) (listener : Listener) (ask : Ask) (callbacks : Callbacks) :
    Move Inbox Inbox.Op (Answer Unit) → Prop
  | .go inbox later => ∃ notes calls,
    Serving (.toListener listener target) plan ask later notes calls ∧
      Serves target notes listener inbox ∧ Offers target calls callbacks
  | .done inbox answer => answer = .ok () ∧ Serves target (plan.next ask) listener inbox ∧
    Offers target (plan.next ask) callbacks

theorem Serving.moves (serving : Serving (.toListener listener target) plan ask inner notes calls)
    (planned : plan.listener? = some listener) (serves : Serves target notes listener inbox)
    (offers : Offers target calls callbacks) :
    ServesOn target plan listener ask (callbacks.after inner.awaits) (inbox.moveOf inner) := by
  have opened := serves.opened
  have own : inbox.callback = .toListener listener target := by
    rw [Inbox.callback, serves.listener, serves.target]
  have next : ∀ kind add, plan.next (.subscribe (.ofKind kind) add) = plan.put kind add := by
    simp [Plan.next, planned]
  cases serving with
  | install kind =>
    simp only [Inbox.moveOf, Inbox.Op.awaits, Inbox.step, opened, own, Bool.false_eq_true, if_false]
    exact ⟨plan, plan, .installing kind, serves, offers⟩
  | installing kind =>
    exact ⟨plan, plan.put kind true, .installed kind, serves, offers.put planned kind true⟩
  | installed kind =>
    exact ⟨plan.put kind true, plan.put kind true, .confirm kind, serves.note kind true, offers⟩
  | confirm kind =>
    simp only [Inbox.moveOf, Inbox.Op.awaits, Inbox.step, opened, Bool.false_eq_true, if_false]
    rw [ServesOn, next]
    exact ⟨rfl, serves, offers⟩
  | removing kind =>
    exact ⟨plan, plan.put kind false, .removed kind, serves, offers.put planned kind false⟩
  | removed kind =>
    simp only [Inbox.moveOf, Inbox.Op.awaits, Inbox.step]
    rw [ServesOn, next]
    exact ⟨rfl, serves.note kind false, offers⟩
  | start =>
    simp only [Inbox.moveOf, Inbox.Op.awaits, Inbox.step, opened, Bool.false_eq_true, if_false]
    exact ⟨plan, plan, .launch, serves, offers⟩
  | launch =>
    have next : plan.next (.subscribe .messages true) = { plan with listens := true } := by
      simp [Plan.next, planned, Plan.take]
    simp only [Inbox.moveOf, Inbox.Op.awaits, Inbox.step]
    split
    case h_1 stage runs =>
      rw [ServesOn, next]
      have listens : inbox.isListening = true := by simp [Inbox.isListening, runs]
      exact ⟨rfl, ⟨serves.listener, serves.target, opened, serves.noted, listens⟩, offers⟩
    case h_2 =>
      rw [ServesOn, next]
      exact ⟨rfl, ⟨serves.listener, serves.target, opened, serves.noted, rfl⟩, offers⟩

end DeviceGateway.Session
