/-
# A session and the callbacks of its client

A call that installs or clears a callback takes effect at the client at some time, and is answered at some
later time; between the two, other operations may move.  This module adds to the runs of a session the
callbacks that its client has, with an event of its own for the effect of a call.  All of these calls
succeed.

An inbox notes what it has been answered, not what took effect.  A removal is overtaken if the client has
a callback again by the time the removal notes that there is none.
-/

import DeviceGateway.Proofs.Session.Binding

namespace DeviceGateway

namespace Session

/-- The callback that an operation on an inbox waits for its client to install or to clear. -/
def Op.callbackCall? : Op → Option (CallbackKind × Option Callback)
  | onInbox _ _ inner =>
    match inner.awaits with
    | some (.setCallback kind callback) => some (kind, callback)
    | _ => none
  | _ => none

/-- A run of a session with the callbacks of its client. -/
structure Hosted where
  run : Run
  callbacks : CallbackKind → Option Callback := fun _ => none
  /-- The members whose present call has taken effect. -/
  effective : List Nat := []
  /-- The removals that were overtaken. -/
  overtaken : List (Nat × CallbackKind) := []

namespace Hosted

/-- The callback that a member waits for the client to install or to clear. -/
def waiting? (hosted : Hosted) (member : Nat) : Option (CallbackKind × Option Callback) :=
  match hosted.run.members[member]? with
  | some (.running op) => op.callbackCall?
  | _ => none

/-- The removal that is overtaken when a member takes its next step, if there is one. -/
def overtakes (hosted : Hosted) (member : Nat) : List (Nat × CallbackKind) :=
  match hosted.run.members[member]? with
  | some (.running (.onInbox _ _ (.removed kind))) =>
    if (hosted.callbacks kind).isSome then [(member, kind)] else []
  | _ => []

/-- What happens to a session and its client. -/
inductive Event where
  /-- The call of a member about a callback takes effect. -/
  | takesEffect (member : Nat)
  /-- The client answers that such a call has succeeded. -/
  | confirms (member : Nat)
  /-- Something else happens to the session. -/
  | runs (event : Session.Event)

/-- The client after the call of a member has taken effect. -/
def put (hosted : Hosted) (member : Nat) (kind : CallbackKind) (callback : Option Callback) : Hosted :=
  { hosted with
    callbacks := fun other => if other = kind then callback else hosted.callbacks other
    effective := member :: hosted.effective }

/-- A session and its client after one more event. -/
def act (hosted : Hosted) : Event → Hosted
  | .takesEffect member =>
    match hosted.waiting? member with
    | some (kind, callback) =>
      if member ∈ hosted.effective then hosted else hosted.put member kind callback
    | none => hosted
  | .confirms member =>
    if (hosted.waiting? member).isSome ∧ member ∈ hosted.effective then
      { hosted with
        run := Session.act hosted.run (.answers member "" (.done (.ok ())))
        effective := hosted.effective.filter (· ≠ member) }
    else hosted
  | .runs (.steps member) =>
    { hosted with
      run := Session.act hosted.run (.steps member)
      overtaken := hosted.overtaken ++ hosted.overtakes member }
  | .runs (.answers member stamp answer) =>
    if (hosted.waiting? member).isSome then hosted
    else { hosted with run := Session.act hosted.run (.answers member stamp answer) }
  | .runs event => { hosted with run := Session.act hosted.run event }

/-- A session and its client after more events. -/
def onward (hosted : Hosted) (events : List Event) : Hosted := events.foldl act hosted

end Hosted

/-- A session with a client that has no callbacks, through a list of events. -/
def host (session : Session) (events : List Hosted.Event) : Hosted :=
  Hosted.onward { run := { state := session } } events

namespace Hosted

/-- Only calls under way have taken effect. -/
def Punctual (hosted : Hosted) : Prop :=
  ∀ member ∈ hosted.effective, (hosted.waiting? member).isSome = true

/-- A session and its client after a member has moved. -/
def follow (hosted : Hosted) (member : Nat) (move : Move Session Op Result) (notes : List Note) : Hosted :=
  { hosted with
    run := hosted.run.follow member move notes
    effective := hosted.effective.filter (· ≠ member)
    overtaken := hosted.overtaken ++ hosted.overtakes member }

section

variable {hosted : Hosted}

theorem waiting?_of_running {member : Nat} {op : Op}
    (held : hosted.run.members[member]? = some (.running op)) :
    hosted.waiting? member = op.callbackCall? := by
  simp only [waiting?, held]

theorem effective_filter_of_not_waiting (punctual : hosted.Punctual) {member : Nat}
    (idle : hosted.waiting? member = none) :
    hosted.effective.filter (· ≠ member) = hosted.effective := by
  rw [List.filter_eq_self]
  intro other inside
  have waits := punctual other inside
  rw [decide_eq_true_iff]
  rintro rfl
  rw [idle] at waits
  cases waits

theorem overtakes_of_waiting {member : Nat} {op : Op} {request : Request}
    (held : hosted.run.members[member]? = some (.running op)) (waits : op.request? = some request) :
    hosted.overtakes member = [] := by
  unfold overtakes
  rw [held]
  split
  case h_1 same =>
    obtain rfl := Progress.running.inj (Option.some.inj same)
    cases waits
  case h_2 => rfl

/-- An operation that waits for a callback waits for the client to answer that call. -/
theorem request?_of_callbackCall? {op : Op} {kind : CallbackKind} {callback : Option Callback}
    (waits : op.callbackCall? = some (kind, callback)) :
    op.request? = some (.call (.setCallback kind callback)) := by
  cases op with
  | onInbox purpose number inner =>
    simp only [Op.callbackCall?] at waits
    split at waits
    case h_1 kind' callback' asked =>
      obtain ⟨rfl, rfl⟩ := Prod.mk.inj (Option.some.inj waits)
      simp [Op.request?, asked]
    case h_2 => cases waits
  | _ => cases waits

theorem callbackCall?_of_request? {op : Op} (free : ∀ call, op.request? ≠ some (.call call)) :
    op.callbackCall? = none := by
  rw [Option.eq_none_iff_forall_not_mem]
  intro call waits
  exact free _ (request?_of_callbackCall? waits)

/-- What an event can do.  A member that waits for a callback moves once the call has taken effect, and is
told that it succeeded. -/
inductive Happens (hosted : Hosted) : Hosted → Prop
  | stays : Happens hosted hosted
  | takes {member : Nat} {kind : CallbackKind} {callback : Option Callback}
      (waits : hosted.waiting? member = some (kind, callback)) :
      Happens hosted (hosted.put member kind callback)
  | begins (command : Command) :
      Happens hosted { hosted with run := hosted.run.enter (.begin command) [.begun command] }
  | moves {member : Nat} {op : Op} {told : List Note} {move : Move Session Op Result}
      (held : hosted.run.members[member]? = some (.running op))
      (moved : Moves hosted.run.state op told move)
      (ready : op.callbackCall? ≠ none →
        member ∈ hosted.effective ∧ move = hosted.run.state.resume "" (.done (.ok ())) op) :
      Happens hosted (hosted.follow member move (told ++ hosted.run.state.notesOf move))
  | loops (number : Nat) (event : Inbox.LoopEvent) :
      Happens hosted { hosted with
        run := hosted.run.drift (hosted.run.state.mapInbox number fun inbox => inbox.onLoop event) [] }

/-- A member that waits, but for no callback, moves without a change of the client. -/
theorem happens_aside (punctual : hosted.Punctual) {member : Nat} {op : Op} {told : List Note}
    {move : Move Session Op Result} (held : hosted.run.members[member]? = some (.running op))
    (waits : op.request? ≠ none) (idle : op.callbackCall? = none)
    (moved : Moves hosted.run.state op told move) :
    Happens hosted { hosted with
      run := hosted.run.follow member move (told ++ hosted.run.state.notesOf move) } := by
  obtain ⟨request, waits⟩ := Option.ne_none_iff_exists'.1 waits
  have happens := Happens.moves held moved fun waits => absurd idle waits
  rwa [follow, overtakes_of_waiting held waits, List.append_nil,
    effective_filter_of_not_waiting punctual ((waiting?_of_running held).trans idle)] at happens

theorem happens_confirms (member : Nat) : Happens hosted (act hosted (.confirms member)) := by
  simp only [act]
  split
  case isTrue ready =>
    obtain ⟨⟨kind, callback⟩, waits⟩ := Option.isSome_iff_exists.1 ready.1
    unfold waiting? at waits
    split at waits
    case h_1 op held =>
      have asked := request?_of_callbackCall? waits
      have happens := Happens.moves held (.answer "" asked rfl) fun _ => ⟨ready.2, rfl⟩
      rw [follow, overtakes_of_waiting held asked, List.append_nil] at happens
      simpa [Session.act, Crew.advance, held, onAnswer, asked, ClientCall.admits] using happens
    case h_2 => cases waits
  case isFalse => exact .stays

theorem happens_hears (punctual : hosted.Punctual) (member : Nat) :
    Happens hosted (act hosted (.runs (.hears member))) := by
  refine @Crew.advance_induction _ _ _ _ hosted.run member
    (fun run => Happens hosted { hosted with run }) _ .stays ?_
  intro op move notes held allowed
  unfold onHearing at allowed
  split at allowed
  case h_1 status reason waits =>
    obtain ⟨rfl, rfl⟩ := Prod.mk.inj (Option.some.inj allowed)
    have idle : op.callbackCall? = none := callbackCall?_of_request? (by simp [waits])
    exact happens_aside punctual held (by simp [waits]) idle (.hearing waits)
  case h_2 => cases allowed

theorem happens_answers (punctual : hosted.Punctual) (member : Nat) (stamp : String)
    (answer : ClientAnswer) : Happens hosted (act hosted (.runs (.answers member stamp answer))) := by
  simp only [act]
  split
  case isTrue => exact .stays
  case isFalse idle =>
    refine @Crew.advance_induction _ _ _ _ hosted.run member
      (fun run => Happens hosted { hosted with run }) _ .stays ?_
    intro op move notes held allowed
    rw [waiting?_of_running held, Option.not_isSome_iff_eq_none] at idle
    unfold onAnswer at allowed
    split at allowed
    case h_1 call waits =>
      split at allowed
      case isTrue admitted =>
        obtain ⟨rfl, rfl⟩ := Prod.mk.inj (Option.some.inj allowed)
        exact happens_aside punctual held (by simp [waits]) idle (.answer stamp waits admitted)
      case isFalse => cases allowed
    case h_2 => cases allowed

theorem happens_steps (punctual : hosted.Punctual) (member : Nat) :
    Happens hosted (act hosted (.runs (.steps member))) := by
  -- Where the member cannot step, nothing is overtaken.
  have stays : hosted.overtakes member = [] →
      Session.act hosted.run (.steps member) = hosted.run →
      Happens hosted (act hosted (.runs (.steps member))) := by
    intro nothing same
    simp only [act, nothing, same, List.append_nil]
    exact .stays
  cases reached : hosted.run.members[member]? with
  | none => exact stays (by simp [overtakes, reached]) (by simp [Session.act, Crew.advance, reached])
  | some progress =>
    cases progress with
    | ended result =>
      exact stays (by simp [overtakes, reached]) (by simp [Session.act, Crew.advance, reached])
    | running op =>
      cases waits : op.request? with
      | some request =>
        exact stays (overtakes_of_waiting reached waits)
          (by simp [Session.act, Crew.advance, reached, onStep, waits])
      | none =>
        have idle : op.callbackCall? = none := callbackCall?_of_request? (by simp [waits])
        have happens := Happens.moves reached (.step waits) fun waits => absurd idle waits
        rw [follow, effective_filter_of_not_waiting punctual
          ((waiting?_of_running reached).trans idle)] at happens
        simpa [act, Session.act, Crew.advance, reached, onStep, waits] using happens

theorem happens_act (punctual : hosted.Punctual) (event : Event) : Happens hosted (act hosted event) := by
  cases event with
  | takesEffect member =>
    simp only [act]
    split
    case h_1 kind callback waits => split <;> [exact .stays; exact .takes waits]
    case h_2 => exact .stays
  | confirms member => exact happens_confirms member
  | runs event =>
    cases event with
    | begins command => exact .begins command
    | steps member => exact happens_steps punctual member
    | answers member stamp answer => exact happens_answers punctual member stamp answer
    | hears member => exact happens_hears punctual member
    | loops number event => exact .loops number event

end

end Hosted

end Session

end DeviceGateway
