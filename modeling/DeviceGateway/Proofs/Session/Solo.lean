/-
# One call at a time

An owner makes one call after the other, each when the one before is over, of a session whose client does
what it is asked.  The receive loops of the inboxes go on meanwhile.  Between two calls the session, its
client and the loops are what the plan of the calls says; while a call is under way, its position says
which part of its effect is there already.
-/

import DeviceGateway.Proofs.Session.Callbacks
import DeviceGateway.Proofs.Session.Listening
import DeviceGateway.Proofs.Session.Plan

namespace DeviceGateway

/-- The callbacks of a client. -/
abbrev Callbacks := CallbackKind → Option Callback

namespace Callbacks

/-- The callbacks after a call that installs one or clears one. -/
def put (callbacks : Callbacks) (kind : CallbackKind) (callback : Option Callback) : Callbacks :=
  fun other => if other = kind then callback else callbacks other

/-- The callbacks after a call, if there is one. -/
def after (callbacks : Callbacks) : Option ClientCall → Callbacks
  | some (.setCallback kind callback) => callbacks.put kind callback
  | _ => callbacks

end Callbacks

namespace Inbox

/-- The move of an operation whose call, if it waits for one, succeeds. -/
def moveOf (inbox : Inbox) (op : Op) : Move Inbox Op (Answer Unit) :=
  match op.awaits with
  | none => inbox.step op
  | some _ => inbox.resume (.ok ()) op

/-- An inbox after something moved its receive loop; a receive call fails only once the inbox is closed. -/
def onHealthyLoop (inbox : Inbox) : LoopEvent → Inbox
  | .received (.error fault) => if inbox.cancelled then inbox.onLoop (.received (.error fault)) else inbox
  | event => inbox.onLoop event

end Inbox

namespace Session

/-- The call that an operation waits for. -/
def Op.call? (op : Op) : Option ClientCall :=
  match op.request? with
  | some (.call call) => some call
  | _ => none

/-- The move of an operation whose call, if it waits for one, succeeds. -/
def moveOf (session : Session) (op : Op) : Move Session Op Result :=
  match op.request? with
  | none => session.step op
  | some (.call _) => session.resume "" (.done (.ok ())) op
  | some (.report _ _) => session.reported op

/-- A session and its client, with what was asked so far and what was answered. -/
structure Solo where
  session : Session
  callbacks : Callbacks := fun _ => none
  /-- The operation that is under way. -/
  op? : Option Op := none
  asked : List Ask := []
  answers : List Result := []

namespace Solo

/-- What happens next. -/
inductive Turn where
  /-- The owner makes a call, if none is under way. -/
  | asks (ask : Ask)
  /-- The operation that is under way moves. -/
  | goes
  /-- The receive loop of an inbox moves. -/
  | loops (number : Nat) (event : Inbox.LoopEvent)

/-- After a move of the operation under way. -/
def follow (solo : Solo) (op : Op) : Move Session Op Result → Solo
  | .go session later =>
    { solo with session, callbacks := solo.callbacks.after op.call?, op? := some later }
  | .done session result =>
    { solo with
      session, callbacks := solo.callbacks.after op.call?, op? := none
      answers := solo.answers ++ [result] }

def act (solo : Solo) : Turn → Solo
  | .asks ask =>
    match solo.op?, ask.command? with
    | some _, _ => solo
    | none, some command => { solo with op? := some (.begin command), asked := solo.asked ++ [ask] }
    | none, none =>
      { solo with asked := solo.asked ++ [ask], answers := solo.answers ++ [.done (.ok ())] }
  | .goes =>
    match solo.op? with
    | some op => solo.follow op (solo.session.moveOf op)
    | none => solo
  | .loops number event =>
    { solo with session := solo.session.mapInbox number fun inbox => inbox.onHealthyLoop event }

def onward (solo : Solo) (turns : List Turn) : Solo := turns.foldl act solo

end Solo

/-- A session through a list of turns. -/
def solo (session : Session) (turns : List Solo.Turn) : Solo := Solo.onward { session } turns

end Session

/-! ## Closing an inbox -/

namespace Inbox

/-- While an inbox is being closed, each callback that the client still has is noted and will be looked at,
or is being cleared. -/
structure Clears (callbacks : Callbacks) (inbox : Inbox) (op : Op) : Prop where
  closes : op.closing? = some (.ok ())
  cancelled : op = .cancel ∨ inbox.cancelled = true
  left : ∀ kind, callbacks kind = none ∨ (inbox.noted kind = true ∧ op.covers kind = true) ∨
    op.awaits = some (.setCallback kind none)

/-- What a move of the operation that closes an inbox leads to. -/
def ClearsOn (callbacks : Callbacks) : Move Inbox Op (Answer Unit) → Prop
  | .go inbox later => Clears callbacks inbox later
  | .done inbox answer => answer = .ok () ∧ inbox.cancelled = true ∧ ∀ kind, callbacks kind = none

variable {callbacks : Callbacks} {inbox : Inbox} {op : Op}

/-- A callback that nobody will look at any more is gone. -/
theorem Clears.none_of_uncovered (clears : Clears callbacks inbox op) (kind : CallbackKind)
    (uncovered : op.covers kind = false ∨ inbox.noted kind = false) :
    callbacks.after op.awaits kind = none := by
  have gone : callbacks kind = none ∨ op.awaits = some (.setCallback kind none) := by
    rcases clears.left kind with none | ⟨noted, covered⟩ | waits
    · exact .inl none
    · rcases uncovered with uncovered | unnoted
      · rw [uncovered] at covered
        cases covered
      · rw [unnoted] at noted
        cases noted
    · exact .inr waits
  rcases gone with none | waits
  · -- The operation installs nothing.
    have closes := clears.closes
    cases op with
    | clearing other result =>
      show callbacks.put other Option.none kind = Option.none
      rw [Callbacks.put, none, ite_self]
    | cancel | clear => exact none
    | _ => cases closes
  · simp [Callbacks.after, waits, Callbacks.put]

theorem Clears.moves (clears : Clears callbacks inbox op) :
    ClearsOn (callbacks.after op.awaits) (inbox.moveOf op) := by
  have gone := clears.none_of_uncovered
  obtain ⟨closes, cancelled, left⟩ := clears
  cases op with
  | cancel =>
    refine ⟨rfl, .inr rfl, fun kind => ?_⟩
    rcases left kind with none | ⟨noted, _⟩ | waits
    · exact .inl none
    · exact .inr (.inl ⟨noted, rfl⟩)
    · cases waits
  | clear kind result =>
    obtain rfl := Option.some.inj closes
    have shut : inbox.cancelled = true := cancelled.resolve_left (by rintro ⟨⟩)
    have others : ∀ other, callbacks other = none ∨
        (inbox.noted other = true ∧ (Op.clear kind (.ok ())).covers other = true) :=
      fun other => (left other).imp_right fun covered => covered.resolve_right (by rintro ⟨⟩)
    simp only [moveOf, Op.awaits, step]
    split
    case isTrue noted =>
      refine ⟨rfl, .inr (by simpa using shut), fun other => ?_⟩
      by_cases same : other = kind
      · exact .inr (.inr (by rw [same]; rfl))
      · refine (others other).imp_right fun covered => .inl ⟨by simpa [same] using covered.1, ?_⟩
        cases kind <;> cases other <;> simp_all [Op.covers]
    case isFalse unnoted =>
      have none := gone kind (.inr (by simpa using unnoted))
      cases kind with
      | method =>
        refine ⟨rfl, .inr shut, fun other => ?_⟩
        cases other with
        | method => exact .inl none
        | desired => exact (others .desired).imp_right fun covered => .inl ⟨covered.1, rfl⟩
      | desired =>
        refine ⟨rfl, shut, fun other => ?_⟩
        cases other with
        | method => exact gone .method (.inl rfl)
        | desired => exact none
  | clearing kind result =>
    obtain rfl := Option.some.inj closes
    have shut : inbox.cancelled = true := cancelled.resolve_left (by rintro ⟨⟩)
    cases kind with
    | method =>
      refine ⟨rfl, .inr shut, fun other => ?_⟩
      cases other with
      | method => exact .inl (gone .method (.inl rfl))
      | desired =>
        rcases left .desired with none | ⟨noted, _⟩ | waits
        · exact .inl (by simpa [Callbacks.after, Op.awaits, Callbacks.put] using none)
        · exact .inr (.inl ⟨noted, rfl⟩)
        · cases waits
    | desired =>
      refine ⟨rfl, shut, fun other => ?_⟩
      cases other <;> exact gone _ (.inl rfl)
  | _ => cases closes

/-- A receive loop changes nothing of its inbox but itself. -/
theorem exists_onHealthyLoop (inbox : Inbox) (event : LoopEvent) :
    ∃ loop, inbox.onHealthyLoop event = { inbox with loop } := by
  unfold onHealthyLoop
  split
  case h_1 => split <;> [exact inbox.exists_onLoop _; exact ⟨inbox.loop, rfl⟩]
  case h_2 => exact inbox.exists_onLoop event

/-- The receive loop of an open inbox goes on, if there is one. -/
theorem isListening_onHealthyLoop (opened : inbox.cancelled = false) (event : LoopEvent) :
    (inbox.onHealthyLoop event).isListening = inbox.isListening := by
  cases event with
  | received answer =>
    cases answer with
    | error fault => simp [onHealthyLoop, opened]
    | ok message =>
      simp only [onHealthyLoop, onLoop]
      split
      case h_1 waits =>
        rw [isListening_received opened]
        simp [isListening, waits]
      case h_2 => rfl
  | delivered | paused | interrupted => exact isListening_onLoop opened (by rintro _ ⟨⟩)

/-- A receive loop does not come in the way of what closes its inbox. -/
theorem Clears.loops (clears : Clears callbacks inbox op) (event : LoopEvent) :
    Clears callbacks (inbox.onHealthyLoop event) op := by
  obtain ⟨loop, same⟩ := inbox.exists_onHealthyLoop event
  rw [same]
  refine ⟨clears.closes, clears.cancelled, fun kind => ?_⟩
  have noted : { inbox with loop }.noted kind = inbox.noted kind := by cases kind <;> rfl
  rw [noted]
  exact clears.left kind

end Inbox

end DeviceGateway
