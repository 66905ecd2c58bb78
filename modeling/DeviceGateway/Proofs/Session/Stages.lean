/-
# How far a call has come

While a call is under way, the position of its operation says which part of its effect is there: a
subscription has reached the bound inbox or not, an inbox that is no longer bound still has callbacks to
clear.  Every move leads to the next position, or to the session that is planned after the call, with the
answer that is planned.
-/

import DeviceGateway.Proofs.Session.Housing

namespace DeviceGateway.Session

variable {identity : Identity} {plan notes calls : Plan} {session : Session} {number : Nat} {inbox : Inbox}
  {inner : Inbox.Op} {listener : Listener} {callbacks : Callbacks} {ask : Ask}

/-- A call that closes the bound inbox, and why it does. -/
inductive Dismisses (plan : Plan) : Ask → Purpose → Prop
  | close : Dismisses plan .close (.teardown .asked)
  | bind (listener : Listener) (active : plan.active = true) :
      Dismisses plan (.bind listener) .replacement

/-- What the position of an operation says about the session and its client, where `plan` is what was
planned before the call. -/
inductive Stage (identity : Identity) (plan : Plan) : Ask → Op → Session → Callbacks → Prop
  | begins {ask : Ask} {command : Command} {session : Session} {callbacks : Callbacks}
      (asks : ask.command? = some command) (houses : Houses identity plan none session)
      (offers : Offers identity.toText plan callbacks) :
      Stage identity plan ask (.begin command) session callbacks
  | looks {category : Category} {add : Bool} {inner : Inbox.Op} {session : Session}
      {callbacks : Callbacks} (asks : (category.command? add).isSome) (active : plan.active = true)
      (starts : ∀ own, Serving own plan (.subscribe category add) inner plan plan)
      (houses : Houses identity plan none session) (offers : Offers identity.toText plan callbacks) :
      Stage identity plan (.subscribe category add) (.lookup inner) session callbacks
  | serves {ask : Ask} {number : Nat} {inner : Inbox.Op} {listener : Listener} {notes calls : Plan}
      {session : Session} {callbacks : Callbacks} (active : plan.active = true)
      (planned : plan.listener? = some listener) (bound : session.bound = some number)
      (serving : Serving (.toListener listener identity.toText) plan ask inner notes calls)
      (houses : Houses identity notes none session) (offers : Offers identity.toText calls callbacks) :
      Stage identity plan ask (.onInbox .request number inner) session callbacks
  | claims {session : Session} {callbacks : Callbacks} (houses : Houses identity plan none session)
      (offers : Offers identity.toText plan callbacks) :
      Stage identity plan .close (.claim .asked) session callbacks
  | detaches {before : Session} {callbacks : Callbacks} (houses : Houses identity plan none before)
      (offers : Offers identity.toText plan callbacks) :
      Stage identity plan .close (.detach .asked) { before with active := false } callbacks
  | leaves {ask : Ask} {purpose : Purpose} {number : Nat} {inner : Inbox.Op} {inbox : Inbox}
      {session : Session} {callbacks : Callbacks} (dismisses : Dismisses plan ask purpose)
      (houses : Houses identity (plan.next ask) (some number) session)
      (apart : session.bound ≠ some number) (found : session.inboxes[number]? = some inbox)
      (clears : inbox.Clears callbacks inner) :
      Stage identity plan ask (.onInbox purpose number inner) session callbacks
  | closes {session : Session} {callbacks : Callbacks}
      (houses : Houses identity (plan.next .close) none session)
      (bare : ∀ kind, callbacks kind = none) :
      Stage identity plan .close (.closingClient .asked (.ok ())) session callbacks
  | replaces {listener : Listener} {session : Session} {callbacks : Callbacks}
      (active : plan.active = true) (houses : Houses identity plan none session)
      (offers : Offers identity.toText plan callbacks) :
      Stage identity plan (.bind listener) (.replace listener) session callbacks
  | confirms {listener : Listener} {session : Session} {callbacks : Callbacks}
      (active : plan.active = true)
      (houses : Houses identity (plan.next (.bind listener)) none session)
      (bare : ∀ kind, callbacks kind = none) :
      Stage identity plan (.bind listener) .confirm session callbacks

/-- What a move of an operation leads to: to its next position, or to what is planned after the call. -/
def Leads (identity : Identity) (plan : Plan) (ask : Ask) (callbacks : Callbacks) :
    Move Session Op Result → Prop
  | .go session later => Stage identity plan ask later session callbacks
  | .done session result => Houses identity (plan.next ask) none session ∧
    Offers identity.toText (plan.next ask) callbacks ∧ result = plan.reply identity.toText ask

/-- Where a subscription leads an open session. -/
theorem exists_lookup {category : Category} {add : Bool} {command : Command}
    (asks : category.command? add = some command) : ∃ inner,
      (∀ session : Session, session.start command =
        if session.active then .go session (.lookup inner)
        else .done session (.done (.error session.closedFault))) ∧
      ∀ own plan, Serving own plan (.subscribe category add) inner plan plan := by
  cases category <;> cases add <;> cases asks
  case methods.true => exact ⟨.install .method, fun _ => rfl, fun _ _ => .install .method⟩
  case methods.false => exact ⟨.removing .method, fun _ => rfl, fun _ _ => .removing .method⟩
  case desiredProperties.true => exact ⟨.install .desired, fun _ => rfl, fun _ _ => .install .desired⟩
  case desiredProperties.false =>
    exact ⟨.removing .desired, fun _ => rfl, fun _ _ => .removing .desired⟩
  case messages.true => exact ⟨.start, fun _ => rfl, fun _ _ => .start⟩

section

variable (sound : plan.active = false → plan.listener? = none)

include sound

theorem leads_begin {command : Command} (asks : ask.command? = some command)
    (houses : Houses identity plan none session) (offers : Offers identity.toText plan callbacks) :
    Leads identity plan ask callbacks (session.start command) := by
  cases ask with
  | bind listener =>
    cases asks
    have start : session.start (.bind listener) =
        if session.active then .go session (.replace listener)
        else .done session (.done (.error session.closedFault)) := rfl
    rw [start, houses.active]
    split
    case isTrue active => exact .replaces active houses offers
    case isFalse closed =>
      have same : plan.next (.bind listener) = plan := by simp [Plan.next, closed]
      rw [Leads, same]
      exact ⟨houses, offers, by simp [Plan.reply, closed, houses.closedFault]⟩
  | subscribe category add =>
    obtain ⟨inner, start, starts⟩ := exists_lookup asks
    rw [start, houses.active]
    split
    case isTrue active =>
      exact .looks (Option.isSome_of_mem asks) active (fun own => starts own plan) houses offers
    case isFalse closed =>
      have unbound := sound (by simpa using closed)
      have same : plan.next (.subscribe category add) = plan := by simp [Plan.next, unbound]
      rw [Leads, same]
      refine ⟨houses, offers, ?_⟩
      have asks : category.command? add = some command := asks
      simp [Plan.reply, asks, closed, houses.closedFault]
  | close =>
    cases asks
    exact .claims houses offers

theorem leads_claim (houses : Houses identity plan none session)
    (offers : Offers identity.toText plan callbacks) :
    Leads identity plan .close callbacks (session.step (.claim .asked)) := by
  simp only [step, houses.active]
  split
  case isTrue active => exact .detaches houses offers
  case isFalse closed =>
    have closed : plan.active = false := by simpa using closed
    have unbound := sound closed
    refine ⟨?_, ?_, rfl⟩
    · exact ⟨houses.owner, houses.active.trans closed, fun _ => houses.unbound unbound, by rintro _ ⟨⟩,
        houses.others⟩
    · exact offers_of_bare (fun kind => (offers kind).trans (callback?_of_unbound unbound kind))
        (callback?_of_unbound rfl)

end

theorem leads_lookup {category : Category} {add : Bool} (asks : (category.command? add).isSome)
    (active : plan.active = true)
    (starts : ∀ own, Serving own plan (.subscribe category add) inner plan plan)
    (houses : Houses identity plan none session) (offers : Offers identity.toText plan callbacks) :
    Leads identity plan (.subscribe category add) callbacks (session.step (.lookup inner)) := by
  simp only [step]
  cases planned : plan.listener? with
  | none =>
    have same : plan.next (.subscribe category add) = plan := by simp [Plan.next, planned]
    obtain ⟨command, asks⟩ := Option.isSome_iff_exists.1 asks
    rw [houses.unbound planned, Leads, same]
    refine ⟨houses, offers, ?_⟩
    simp [Plan.reply, asks, active, planned, unboundFault, houses.owner]
  | some listener =>
    obtain ⟨number, inbox, bound, _, _⟩ := houses.bound listener planned
    rw [bound]
    exact .serves active planned bound (starts _) houses offers

/-- The move of an operation at an inbox is that of the inbox. -/
theorem moveOf_onInbox (purpose : Purpose) (found : session.inboxes[number]? = some inbox) :
    session.moveOf (.onInbox purpose number inner) =
      session.ofInboxMove purpose number (inbox.moveOf inner) := by
  cases asked : inner.awaits with
  | none => simp [moveOf, Op.request?, asked, step, found, Inbox.moveOf]
  | some call => simp [moveOf, Op.request?, asked, resume, found, Inbox.moveOf, ClientAnswer.outcome]

theorem call?_onInbox (purpose : Purpose) (number : Nat) (inner : Inbox.Op) :
    (Op.onInbox purpose number inner).call? = inner.awaits := by
  cases asked : inner.awaits <;> simp [Op.call?, Op.request?, asked]

theorem Serving.reply_eq (serving : Serving own plan ask inner notes calls)
    (active : plan.active = true) (planned : plan.listener? = some listener) (target : String) :
    plan.reply target ask = .done (.ok ()) := by
  cases serving <;> simp [Plan.reply, active, planned]

theorem leads_serving (active : plan.active = true) (planned : plan.listener? = some listener)
    (bound : session.bound = some number)
    (serving : Serving (.toListener listener identity.toText) plan ask inner notes calls)
    (houses : Houses identity notes none session) (offers : Offers identity.toText calls callbacks) :
    Leads identity plan ask (callbacks.after inner.awaits)
      (session.moveOf (.onInbox .request number inner)) := by
  obtain ⟨stays, planned'⟩ := serving.notes_eq
  obtain ⟨inbox, found, serves⟩ := houses.exists_serves (planned'.trans planned) bound
  have moves := serving.moves planned serves offers
  rw [moveOf_onInbox .request found]
  generalize inbox.moveOf inner = move at moves ⊢
  cases move with
  | go inbox' later =>
    obtain ⟨notes', calls', serving', serves', offers'⟩ := moves
    obtain ⟨stays', planned''⟩ := serving'.notes_eq
    exact .serves active planned bound serving'
      (houses.put_bound bound found (stays'.trans stays.symm) (planned''.trans planned) serves') offers'
  | done inbox' answer =>
    obtain ⟨rfl, serves', offers'⟩ := moves
    have kept : (plan.next ask).active = plan.active ∧ (plan.next ask).listener? = plan.listener? := by
      cases serving <;> simp
    exact ⟨houses.put_bound bound found (kept.1.trans stays.symm) (kept.2.trans planned) serves', offers',
      (serving.reply_eq active planned _).symm⟩

theorem leads_detach (houses : Houses identity plan none session)
    (offers : Offers identity.toText plan callbacks) :
    Leads identity plan .close callbacks
      (Session.step { session with active := false } (.detach .asked)) := by
  simp only [step]
  split
  case h_1 number bound =>
    obtain ⟨inbox, found, clears⟩ := houses.clears_cancel bound offers
    refine .leaves .close ?_ (by rintro ⟨⟩) found clears
    refine ⟨houses.owner, rfl, fun _ => rfl, by rintro _ ⟨⟩, ?_⟩
    intro other inbox' found' _ stays
    have apart : session.bound ≠ some other := by
      rw [bound]
      exact stays
    exact houses.shut found' apart
  case h_2 free =>
    have free : session.bound = none := free
    refine .closes ?_ (houses.bare free offers)
    exact ⟨houses.owner, rfl, fun _ => free, by rintro _ ⟨⟩, fun _ _ found unbound _ =>
      houses.shut found unbound⟩

theorem leads_replace (active : plan.active = true) (houses : Houses identity plan none session)
    (offers : Offers identity.toText plan callbacks) :
    Leads identity plan (.bind listener) callbacks (session.step (.replace listener)) := by
  have fresh : plan.next (.bind listener) = { listener? := some listener } := by simp [Plan.next, active]
  have own : (session.inboxes ++ [session.newInbox listener])[session.inboxes.length]? =
      some (session.newInbox listener) := by simp
  have serves : Serves identity.toText { listener? := some listener } listener
      (session.newInbox listener) := by
    refine ⟨rfl, ?_, rfl, fun kind => by cases kind <;> rfl, rfl⟩
    rw [newInbox, houses.owner]
  have housed : Houses identity (plan.next (.bind listener)) session.bound
      { session with
        inboxes := session.inboxes ++ [session.newInbox listener]
        bound := some session.inboxes.length } := by
    rw [fresh]
    constructor
    case owner => exact houses.owner
    case active => exact houses.active.trans active
    case unbound => rintro ⟨⟩
    case bound =>
      rintro other ⟨⟩
      exact ⟨_, _, rfl, own, serves⟩
    case others =>
      intro other inbox found unbound stays
      have apart : session.inboxes.length ≠ other := fun same => unbound (congrArg some same)
      rw [List.getElem?_append] at found
      split at found
      case isTrue => exact houses.shut found stays
      case isFalse =>
        have within := (List.getElem?_eq_some_iff.1 found).1
        simp only [List.length_singleton] at within
        omega
  simp only [step]
  split
  case h_1 previous bound =>
    obtain ⟨inbox, found, clears⟩ := houses.clears_cancel bound offers
    have within := (List.getElem?_eq_some_iff.1 found).1
    rw [bound] at housed
    refine .leaves (.bind listener active) housed ?_ ?_ clears
    · exact fun same => absurd (Option.some.inj same) (Nat.ne_of_gt within)
    · exact (List.getElem?_append_left within).trans found
  case h_2 free =>
    rw [free] at housed
    exact .confirms active housed (houses.bare free offers)

theorem leads_leaving {purpose : Purpose} (dismisses : Dismisses plan ask purpose)
    (houses : Houses identity (plan.next ask) (some number) session)
    (apart : session.bound ≠ some number) (found : session.inboxes[number]? = some inbox)
    (clears : inbox.Clears callbacks inner) :
    Leads identity plan ask (callbacks.after inner.awaits)
      (session.moveOf (.onInbox purpose number inner)) := by
  have within := (List.getElem?_eq_some_iff.1 found).1
  have self : ∀ inbox' : Inbox, (session.putInbox number inbox').inboxes[number]? = some inbox' :=
    fun inbox' => List.getElem?_set_self within
  have moves := clears.moves
  rw [moveOf_onInbox purpose found]
  generalize inbox.moveOf inner = move at moves ⊢
  cases move with
  | go inbox' later => exact .leaves dismisses (houses.put_other apart inbox') apart (self inbox') moves
  | done inbox' answer =>
    obtain ⟨rfl, shut, bare⟩ := moves
    have left := (houses.put_other apart inbox').left (self inbox') shut
    cases dismisses with
    | close => exact .closes left bare
    | bind listener active => exact .confirms active left bare

/-- Every move of a call brings it to its next position, or to what is planned after it. -/
theorem Stage.moves {op : Op} (sound : plan.active = false → plan.listener? = none)
    (stage : Stage identity plan ask op session callbacks) :
    Leads identity plan ask (callbacks.after op.call?) (session.moveOf op) := by
  cases stage with
  | begins asks houses offers => exact leads_begin sound asks houses offers
  | looks asks active starts houses offers => exact leads_lookup asks active starts houses offers
  | serves active planned bound serving houses offers =>
    rw [call?_onInbox]
    exact leads_serving active planned bound serving houses offers
  | claims houses offers => exact leads_claim sound houses offers
  | detaches houses offers => exact leads_detach houses offers
  | leaves dismisses houses apart found clears =>
    rw [call?_onInbox]
    exact leads_leaving dismisses houses apart found clears
  | closes houses bare => exact ⟨houses, offers_of_bare bare (callback?_of_unbound rfl), rfl⟩
  | replaces active houses offers => exact leads_replace active houses offers
  | @confirms listener _ _ active houses bare =>
    have fresh : plan.next (.bind listener) = { listener? := some listener } := by simp [Plan.next, active]
    have opened : session.active = true := by rw [houses.active, fresh]
    have move : session.moveOf .confirm = .done session (.done (.ok ())) := by
      show session.step .confirm = _
      simp [step, opened]
    rw [move]
    refine ⟨houses, offers_of_bare bare fun kind => ?_, by simp [Plan.reply, active]⟩
    rw [fresh]
    rfl

theorem Stage.loops {op : Op} (stage : Stage identity plan ask op session callbacks) (number : Nat)
    (event : Inbox.LoopEvent) : Stage identity plan ask op
      (session.mapInbox number fun inbox => inbox.onHealthyLoop event) callbacks := by
  cases stage with
  | begins asks houses offers => exact .begins asks (houses.loops number event) offers
  | looks asks active starts houses offers =>
    exact .looks asks active starts (houses.loops number event) offers
  | serves active planned bound serving houses offers =>
    exact .serves active planned ((bound_mapInbox ..).trans bound) serving (houses.loops number event)
      offers
  | claims houses offers => exact .claims (houses.loops number event) offers
  | @detaches before callbacks houses offers =>
    have same : (Session.mapInbox { before with active := false } number
        fun inbox => inbox.onHealthyLoop event) =
        { before.mapInbox number fun inbox => inbox.onHealthyLoop event with active := false } := by
      unfold mapInbox
      cases before.inboxes[number]? <;> rfl
    rw [same]
    exact .detaches (houses.loops number event) offers
  | leaves dismisses houses apart found clears =>
    have apart' := apart
    rw [← bound_mapInbox session number fun inbox => inbox.onHealthyLoop event] at apart'
    obtain ⟨after, held, rfl | rfl⟩ := exists_loops found number event
    · exact .leaves dismisses (houses.loops number event) apart' held clears
    · exact .leaves dismisses (houses.loops number event) apart' held (clears.loops event)
  | closes houses bare => exact .closes (houses.loops number event) bare
  | replaces active houses offers => exact .replaces active (houses.loops number event) offers
  | confirms active houses bare => exact .confirms active (houses.loops number event) bare

end DeviceGateway.Session
