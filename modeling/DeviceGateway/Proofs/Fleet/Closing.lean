/-
# A client is closed once

Whoever turns a session inactive tears it down and closes its client at the end.  So the calls that have
closed the client of a session, and the operations that are still to close it, are one together when the
session is closed, and none while it is active.
-/

import DeviceGateway.Proofs.Fleet.Standing

namespace DeviceGateway

/-- Whether a call closes the client. -/
def ClientCall.isClose : ClientCall → Bool
  | close => true
  | _ => false

namespace Session

/-- Whether an operation has turned the session inactive and is still to close the client. -/
def Op.isTearing : Op → Bool
  | detach _ | onInbox (.teardown _) _ _ | closingClient _ _ => true
  | _ => false

/-- Whether an operation clears the callbacks of an inbox, with the client still to be closed. -/
def Op.isClearing : Op → Bool
  | onInbox (.teardown _) _ _ => true
  | _ => false

/-- Whether an operation closes the client only where it tears the session down. -/
def Op.Orderly : Op → Prop
  | sending call | passing call => call.isClose = false
  | _ => True

/-- How many teardowns a move leaves to be finished. -/
def teardownsAfter : Move Session Op Result → Nat
  | .go _ op => op.isTearing.toNat
  | .done _ _ => 0

variable (session : Session)

/-- How many teardowns a session has begun. -/
def teardowns : Nat := (!session.active).toNat

@[simp]
theorem teardowns_putInbox (number : Nat) (inbox : Inbox) :
    (session.putInbox number inbox).teardowns = session.teardowns := rfl

theorem teardownsAfter_forward (call : Answer ClientCall) {position : ClientCall → Op}
    (aside : ∀ call, (position call).isTearing = false) :
    teardownsAfter (session.forward call position) = 0 := by
  cases call with
  | ok call => simp [forward, teardownsAfter, aside]
  | error fault => rfl

theorem teardownsAfter_accept (command : Command) : teardownsAfter (session.accept command) = 0 := by
  cases command with
  | send _ | sendBatch _ | updateReported _ => exact teardownsAfter_forward _ _ fun _ => rfl
  | _ => rfl

theorem teardownsAfter_start (command : Command) : teardownsAfter (session.start command) = 0 := by
  unfold start
  split
  case h_1 => exact teardownsAfter_accept session .close
  case h_2 => split <;> [rfl; (split <;> [exact teardownsAfter_accept session _; rfl])]
  case h_3 => split <;> [exact teardownsAfter_accept session command; rfl]

theorem teardownsAfter_afterInbox (answer : Answer Unit) (purpose : Purpose) (number : Nat)
    (op : Inbox.Op) :
    teardownsAfter (session.afterInbox answer purpose) =
      (Op.onInbox purpose number op).isClearing.toNat := by
  cases purpose <;> rfl

theorem teardownsAfter_ofInboxMove (purpose : Purpose) (number : Nat) (op : Inbox.Op)
    (move : Move Inbox Inbox.Op (Answer Unit)) :
    teardownsAfter (session.ofInboxMove purpose number move) =
      (Op.onInbox purpose number op).isClearing.toNat := by
  cases move with
  | go inbox later => cases purpose <;> rfl
  | done inbox answer => exact teardownsAfter_afterInbox ..

/-- A step turns the session inactive and takes up its teardown at once, or does neither. -/
theorem teardowns_step {op : Op} (free : op.request? = none) :
    teardownsAfter (session.step op) + session.teardowns =
      op.isTearing.toNat + (session.step op).state.teardowns := by
  cases op with
  | begin command =>
    simp only [step, teardownsAfter_start, state_start]
    rfl
  | onInbox purpose number op =>
    simp only [step]
    split
    case h_1 inbox _ =>
      rw [teardownsAfter_ofInboxMove session purpose number op, state_ofInboxMove, teardowns_putInbox]
      cases purpose <;> rfl
    case h_2 =>
      rw [teardownsAfter_afterInbox session _ purpose number op, state_afterInbox]
      cases purpose <;> rfl
  | claim cause =>
    simp only [step]
    split
    case isTrue active => simp [teardownsAfter, teardowns, Op.isTearing, active]
    case isFalse => cases cause <;> rfl
  | lookup _ | detach _ | replace _ | confirm | withdraw =>
    simp only [step]
    split <;> rfl
  | fetching | sending _ | passing _ | closingClient _ _ | reporting _ => cases free

/-- The answer of a client turns nothing inactive, and the one that has closed the client ends the
teardown. -/
theorem teardowns_resume (stamp : String) (answer : ClientAnswer) {op : Op} {call : ClientCall}
    (waits : op.request? = some (.call call)) :
    teardownsAfter (session.resume stamp answer op) = op.isClearing.toNat ∧
      (session.resume stamp answer op).state.teardowns = session.teardowns := by
  cases op with
  | fetching =>
    simp only [resume]
    split <;> exact ⟨rfl, rfl⟩
  | sending call =>
    simp only [resume]
    split <;> [exact ⟨rfl, rfl⟩; (split <;> exact ⟨rfl, rfl⟩)]
  | passing call => exact ⟨rfl, rfl⟩
  | onInbox purpose number op =>
    simp only [resume]
    split
    case h_1 inbox _ =>
      refine ⟨teardownsAfter_ofInboxMove session purpose number op _, ?_⟩
      rw [state_ofInboxMove, teardowns_putInbox]
    case h_2 =>
      refine ⟨teardownsAfter_afterInbox session _ purpose number op, ?_⟩
      rw [state_afterInbox]
  | closingClient cause inbox =>
    refine ⟨?_, by simp [resume]⟩
    cases cause with
    | asked => rfl
    | rejected fault =>
      simp only [resume, tornDown]
      split <;> rfl
  | begin _ | lookup _ | claim _ | detach _ | reporting _ | replace _ | confirm | withdraw =>
    cases waits

theorem teardowns_reported {op : Op} {status : ConnectionStatus} {reason : StatusReason}
    (waits : op.request? = some (.report status reason)) :
    teardownsAfter (session.reported op) = 0 ∧ op.isTearing = false ∧
      (session.reported op).state = session := by
  cases op with
  | reporting fault => exact ⟨rfl, rfl, rfl⟩
  | onInbox purpose number op => cases asked : op.awaits <;> simp [Op.request?, asked] at waits
  | _ => cases waits

/-- An operation calls its client to close it exactly where that ends a teardown. -/
theorem isTearing_of_request? {op : Op} {call : ClientCall} (orderly : op.Orderly)
    (waits : op.request? = some (.call call)) :
    op.isTearing.toNat = op.isClearing.toNat + call.isClose.toNat := by
  cases op with
  | sending other | passing other =>
    obtain rfl := Request.call.inj (Option.some.inj waits)
    rw [show other.isClose = false from orderly]
    rfl
  | fetching | closingClient cause inbox =>
    obtain rfl := Request.call.inj (Option.some.inj waits)
    rfl
  | onInbox purpose number op =>
    have apart : call.isClose = false := by
      cases op with
      | installing | withdrawing | removing | clearing =>
        obtain rfl := Request.call.inj (Option.some.inj waits)
        rfl
      | _ => cases waits
    rw [apart]
    cases purpose <;> rfl
  | _ => cases waits

/-! ## Where operations close their client -/

/-- Whether a move leads to an operation that closes the client only in a teardown. -/
def OrderlyMove : Move Session Op Result → Prop
  | .go _ op => op.Orderly
  | .done _ _ => True

theorem orderly_forward {call : Answer ClientCall} {position : ClientCall → Op}
    (orderly : ∀ sent, call = .ok sent → (position sent).Orderly) :
    OrderlyMove (session.forward call position) := by
  cases call with
  | ok call => exact orderly call rfl
  | error fault => trivial

theorem orderly_accept (command : Command) : OrderlyMove (session.accept command) := by
  have mapped : ∀ {α : Type} {answer : Answer α} {call : α → ClientCall} {sent : ClientCall},
      (∀ value, (call value).isClose = false) → answer.map call = .ok sent →
        sent.isClose = false := by
    intro α answer call sent open' same
    cases answer with
    | ok value =>
      obtain rfl := Except.ok.inj same
      exact open' value
    | error fault => cases same
  cases command with
  | send message | sendBatch messages | updateReported patch =>
    exact orderly_forward session fun sent same => mapped (fun _ => rfl) same
  | sendFeedback messageId status => rfl
  | _ => trivial

theorem orderly_start (command : Command) : OrderlyMove (session.start command) := by
  unfold start
  split
  case h_1 => trivial
  case h_2 => split <;> [trivial; (split <;> [exact orderly_accept session _; trivial])]
  case h_3 => split <;> [exact orderly_accept session command; trivial]

theorem orderly_ofInboxMove (purpose : Purpose) (number : Nat)
    (move : Move Inbox Inbox.Op (Answer Unit)) :
    OrderlyMove (session.ofInboxMove purpose number move) := by
  cases move with
  | go inbox op => trivial
  | done inbox answer => cases purpose <;> trivial

theorem orderly_step {op : Op} (orderly : op.Orderly) : OrderlyMove (session.step op) := by
  cases op with
  | begin command => exact orderly_start session command
  | onInbox purpose number op =>
    simp only [step]
    split
    case h_1 => exact orderly_ofInboxMove ..
    case h_2 => cases purpose <;> trivial
  | claim cause =>
    simp only [step]
    split <;> [trivial; (cases cause <;> trivial)]
  | lookup _ | detach _ | replace _ | confirm | withdraw =>
    simp only [step]
    split <;> trivial
  | fetching | sending _ | passing _ | closingClient _ _ | reporting _ => exact orderly

theorem orderly_resume (stamp : String) (answer : ClientAnswer) {op : Op} (orderly : op.Orderly) :
    OrderlyMove (session.resume stamp answer op) := by
  cases op with
  | fetching =>
    simp only [resume]
    split <;> trivial
  | sending call =>
    simp only [resume]
    split <;> [trivial; (split <;> trivial)]
  | passing call => trivial
  | onInbox purpose number op =>
    simp only [resume]
    split
    case h_1 => exact orderly_ofInboxMove ..
    case h_2 => cases purpose <;> trivial
  | closingClient cause inbox =>
    cases cause with
    | asked => trivial
    | rejected fault =>
      simp only [resume, tornDown]
      split <;> trivial
  | begin _ | lookup _ | claim _ | detach _ | reporting _ | replace _ | confirm | withdraw =>
    exact orderly

theorem orderly_reported {op : Op} (orderly : op.Orderly) : OrderlyMove (session.reported op) := by
  cases op with
  | reporting fault => trivial
  | _ => exact orderly

end Session

namespace Fleet

open Registry (Result)

/-! ## Who closes a client -/

/-- Whether an operation has turned a session inactive and is still to call its client. -/
def Op.owes (number : Nat) : Op → Bool
  | plain (.onSession _ other op) => other == number && op.isTearing
  | calling _ other op _ => other == number && op.isClearing
  | _ => false

/-- Whether the client with a number was called to be closed. -/
def Note.closes (number : Nat) : Note → Bool
  | called other call => other == number && call.isClose
  | _ => false

/-- Where an operation calls its client: the client is at work on a call of the session, and only a
teardown closes the client. -/
def Op.Orderly : Op → Prop
  | plain (.onSession _ _ op) => op.Orderly
  | calling _ _ op _ => op.Orderly ∧ ∃ call, op.request? = some (.call call)
  | _ => True

/-- Whether an operation is still to close the client with a number. -/
def owes (number : Nat) : Progress Op Result → Bool
  | .running op => op.owes number
  | .ended _ => false

/-- How many teardowns of the session with a number have begun. -/
def teardowns (fleet : Fleet) (number : Nat) : Nat :=
  match fleet.registry.sessions[number]? with
  | some session => session.teardowns
  | none => 0

/-- How often the client with a number was called to be closed. -/
def closings (run : Run) (number : Nat) : Nat :=
  run.log.countP fun entry => entry.2.closes number

variable {fleet : Fleet} {run : Run} {member number : Nat} {op : Op} {notes : List Note}
  {move : Move Fleet Op Result}

theorem orderly_ofSessionMove {registry : Registry} {purpose : Registry.Purpose} {caller : Nat}
    {moved : Move Session Session.Op Session.Result} (orderly : Session.OrderlyMove moved) {later : Op}
    (comes : (fleet.ofRegistryMove
      (registry.ofSessionMove purpose caller moved)).progress = .running later) : later.Orderly := by
  obtain ⟨op, rfl, comes'⟩ := plain_of_ofRegistryMove comes
  cases moved with
  | go session inner =>
    obtain rfl := Progress.running.inj comes'
    exact orderly
  | done session result =>
    obtain ⟨identity, rfl⟩ := evict_of_afterSession comes'
    trivial

theorem orderly_of_moves (orderly : op.Orderly) (moved : Moves fleet op notes move) {later : Op}
    (comes : move.progress = .running later) : later.Orderly := by
  cases moved with
  | @step op can =>
    cases op with
    | onSession purpose caller inner =>
      simp only [Registry.step] at comes
      split at comes
      case h_1 session _ =>
        split at comes
        case h_1 => exact orderly_ofSessionMove (session.orderly_reported orderly) comes
        case h_2 => exact (Progress.running.inj comes) ▸ orderly
        case h_3 => exact orderly_ofSessionMove (session.orderly_step orderly) comes
      case h_2 => cases comes
    | close identity =>
      simp only [Registry.step] at comes
      split at comes
      case h_1 =>
        split at comes
        case h_1 session _ =>
          have claim : (Session.Op.claim .asked).Orderly := trivial
          exact orderly_ofSessionMove (session.orderly_step claim) comes
        case h_2 => cases comes
      case h_2 => cases comes
    | creating identity ticket => cases can
    | find identity | findAgain identity ticket =>
      simp only [Registry.step] at comes
      split at comes <;> cases comes <;> trivial
    | waiting identity ticket =>
      simp only [Registry.step] at comes
      split at comes <;> cases comes <;> trivial
    | join identity | leave ticket answer | evict identity =>
      cases comes <;> trivial
  | call waits =>
    obtain rfl := Progress.running.inj comes
    exact ⟨orderly, _, waits⟩
  | @client purpose caller inner call station move stamp held moved =>
    cases move with
    | go uplink call =>
      obtain rfl := Progress.running.inj comes
      exact orderly
    | done uplink answer =>
      simp only [ofCallMove, Registry.resume] at comes
      split at comes
      case h_1 session _ =>
        exact orderly_ofSessionMove (session.orderly_resume stamp answer orderly.1) comes
      case h_2 => cases comes
  | provide | fail | attach | map =>
    obtain rfl := Progress.running.inj comes
    trivial

/-! ## Counting -/

/-- How many teardowns of the session with a number a move leaves to be finished. -/
theorem owes_ofSessionMove (registry : Registry) (purpose : Registry.Purpose) (caller number : Nat)
    (moved : Move Session Session.Op Session.Result) :
    (owes number (fleet.ofRegistryMove
        (registry.ofSessionMove purpose caller moved)).progress).toNat =
      if caller = number then Session.teardownsAfter moved else 0 := by
  cases moved with
  | go session op =>
    by_cases same : caller = number <;>
      simp [Registry.ofSessionMove, ofRegistryMove, owes, Op.owes, Session.teardownsAfter, same]
  | done session result =>
    have none : owes number (fleet.ofRegistryMove
        ((registry.putSession caller session).afterSession caller result purpose)).progress = false := by
      cases reached : (fleet.ofRegistryMove
          ((registry.putSession caller session).afterSession caller result purpose)).progress with
      | ended result => rfl
      | running op =>
        obtain ⟨op, rfl, comes⟩ := plain_of_ofRegistryMove reached
        obtain ⟨identity, rfl⟩ := evict_of_afterSession comes
        rfl
    simp [Registry.ofSessionMove, none, Session.teardownsAfter]

/-- What a session's move means for the teardowns that have begun. -/
theorem teardowns_ofSessionMove {registry : Registry} {purpose : Registry.Purpose} {caller : Nat}
    {session : Session} (held : registry.sessions[caller]? = some session) (number : Nat)
    (moved : Move Session Session.Op Session.Result) :
    teardowns (fleet.ofRegistryMove (registry.ofSessionMove purpose caller moved)).state number =
      if caller = number then moved.state.teardowns
      else teardowns { fleet with registry } number := by
  rw [state_ofRegistryMove, Registry.state_ofSessionMove]
  by_cases same : caller = number
  · subst same
    simp [teardowns, Registry.getElem?_putSession_self held]
  · simp [teardowns, Registry.putSession, List.getElem?_set_ne same, same]

theorem teardowns_congr {after : Fleet} (same : after.registry.sessions = fleet.registry.sessions)
    (number : Nat) : teardowns after number = teardowns fleet number := by
  simp only [teardowns, same]

/-- A session is made before anything is torn down of it. -/
theorem teardowns_add (fleet : Fleet) (identity : Identity) (settings : Settings.Hub)
    (router : Topic.Router Uplink.Destination) (number : Nat) :
    teardowns (fleet.add identity settings router) number = teardowns fleet number := by
  have grown : (fleet.add identity settings router).registry.sessions =
      fleet.registry.sessions ++ [fleet.registry.newSession identity] := rfl
  by_cases within : number < fleet.registry.sessions.length
  · simp only [teardowns, grown, List.getElem?_append_left within]
  · have beyond := Nat.le_of_not_lt within
    simp only [teardowns, grown, List.getElem?_append_right beyond, List.getElem?_eq_none beyond,
      List.getElem?_singleton]
    split
    case h_1 session held =>
      split at held
      case isTrue =>
        obtain rfl := Option.some.inj held
        rfl
      case isFalse => cases held
    case h_2 => rfl

/-- Whether a move keeps the balance of a teardown: whatever it turns inactive is still to be closed,
and what is no more to be closed was called. -/
def Balances (fleet : Fleet) (number : Nat) (op : Op) (notes : List Note)
    (move : Move Fleet Op Result) : Prop :=
  notes.countP (Note.closes number) + (owes number move.progress).toNat + teardowns fleet number =
    (op.owes number).toNat + teardowns move.state number

theorem balances_of_sessions {after : Fleet} {later : Op}
    (same : after.registry.sessions = fleet.registry.sessions) (before : op.owes number = false)
    (free : later.owes number = false) : Balances fleet number op [] (.go after later) := by
  simp [Balances, owes, before, free, teardowns_congr same]

theorem balances_of_end {after : Fleet} {result : Result}
    (same : after.registry.sessions = fleet.registry.sessions) (before : op.owes number = false) :
    Balances fleet number op [] (.done after result) := by
  simp [Balances, owes, before, teardowns_congr same]

/-- The balance of what one session does. -/
theorem balances_ofSessionMove {registry : Registry} {purpose : Registry.Purpose} {caller : Nat}
    {session : Session} (same : registry.sessions = fleet.registry.sessions)
    (held : fleet.registry.sessions[caller]? = some session)
    {moved : Move Session Session.Op Session.Result} {weight : Bool}
    (before : op.owes number = (caller == number && weight))
    (balanced : Session.teardownsAfter moved + session.teardowns =
      weight.toNat + moved.state.teardowns) :
    Balances fleet number op [] (fleet.ofRegistryMove (registry.ofSessionMove purpose caller moved)) := by
  have held' : registry.sessions[caller]? = some session := by rw [same, held]
  have now : teardowns { fleet with registry } number = teardowns fleet number :=
    teardowns_congr same number
  rw [Balances, owes_ofSessionMove, teardowns_ofSessionMove held', now, before]
  by_cases own : caller = number
  · subst own
    simp only [if_true, beq_self_eq_true, Bool.true_and, teardowns, held, List.countP_nil,
      Nat.zero_add]
    exact balanced
  · simp [own]

/-- An operation on a session that is not there owes nothing. -/
theorem owes_of_none {caller : Nat}
    (known : op.owes number = true → ∃ session, fleet.registry.sessions[number]? = some session)
    (missing : fleet.registry.sessions[caller]? = none)
    (own : op.owes number = true → caller = number) : op.owes number = false := by
  by_contra owed
  have owed : op.owes number = true := by simpa using owed
  obtain ⟨session, found⟩ := known owed
  rw [← own owed, missing] at found
  cases found

theorem balances_step {op : Registry.Op} (can : fleet.registry.canStep op = true)
    (known : Op.owes number (.plain op) = true →
      ∃ session, fleet.registry.sessions[number]? = some session) :
    Balances fleet number (.plain op) [] (fleet.ofRegistryMove (fleet.registry.step op)) := by
  cases op with
  | onSession purpose caller inner =>
    simp only [Registry.step]
    cases held : fleet.registry.sessions[caller]? with
    | some session =>
      cases waits : inner.request? with
      | none => exact balances_ofSessionMove rfl held rfl (session.teardowns_step waits)
      | some request =>
        cases request with
        | call call => simp [Registry.canStep, Registry.Op.request?, waits] at can
        | report status reason =>
          obtain ⟨free, before, still⟩ := session.teardowns_reported waits
          refine balances_ofSessionMove (Registry.sessions_hear ..) held rfl ?_
          rw [free, before, still]
          rfl
    | none =>
      refine balances_of_end rfl (owes_of_none known held ?_)
      exact fun owed => beq_iff_eq.1 (Bool.and_eq_true_iff.1 owed).1
  | close identity =>
    simp only [Registry.step]
    split
    case h_1 caller _ =>
      split
      case h_1 session held =>
        have same : (fleet.registry.unmap identity).sessions = fleet.registry.sessions := rfl
        have before : Op.owes number (.plain (.close identity)) = (caller == number && false) := by
          rw [Bool.and_false]
          rfl
        have free : (Session.Op.claim .asked).request? = none := rfl
        exact balances_ofSessionMove same held before (session.teardowns_step free)
      case h_2 => exact balances_of_end rfl rfl
    case h_2 => exact balances_of_end rfl rfl
  | find identity =>
    simp only [Registry.step]
    split <;> [exact balances_of_end rfl rfl; exact balances_of_sessions rfl rfl rfl]
  | waiting identity ticket | findAgain identity ticket =>
    simp only [Registry.step]
    split <;> exact balances_of_sessions rfl rfl rfl
  | join identity | creating identity ticket => exact balances_of_sessions rfl rfl rfl
  | leave ticket answer => exact balances_of_end rfl rfl
  | evict identity => exact balances_of_end (Registry.sessions_evictInactive ..) rfl

theorem balances_of_moves (orderly : op.Orderly) (moved : Moves fleet op notes move)
    (known : op.owes number = true → ∃ session, fleet.registry.sessions[number]? = some session) :
    Balances fleet number op notes move := by
  cases moved with
  | step can => exact balances_step can known
  | @call purpose caller inner call waits =>
    have weight := Session.isTearing_of_request? orderly waits
    by_cases same : caller = number
    · subst same
      simp only [Balances, owes, Op.owes, Note.closes, Move.progress_go, Move.state_go, weight,
        List.countP_singleton, beq_self_eq_true, Bool.true_and]
      cases call.isClose <;> simp [Nat.add_comm]
    · simp [Balances, owes, Op.owes, Note.closes, beq_eq_false_iff_ne.2 same]
  | @client purpose caller inner call station move stamp held moved =>
    obtain ⟨_, asked, waits⟩ := orderly
    cases move with
    | go uplink call =>
      simp only [Balances, ofCallMove, owes, Op.owes, Move.progress_go, Move.state_go,
        List.countP_nil, Nat.zero_add]
      rfl
    | done uplink answer =>
      simp only [ofCallMove, Registry.resume]
      cases found : fleet.registry.sessions[caller]? with
      | some session =>
        obtain ⟨finished, still⟩ := session.teardowns_resume stamp answer waits
        have before : Op.owes number (.calling purpose caller inner call) =
            (caller == number && inner.isClearing) := rfl
        have found' : (fleet.changeUplink caller fun _ => uplink).registry.sessions[caller]? =
            some session := found
        -- What has become of the client does not count.
        show Balances (fleet.changeUplink caller fun _ => uplink) number _ [] _
        exact balances_ofSessionMove rfl found' before (by rw [finished, still])
      | none =>
        refine balances_of_end rfl (owes_of_none known found ?_)
        exact fun owed => beq_iff_eq.1 (Bool.and_eq_true_iff.1 owed).1
  | provide identity ticket settings router =>
    simp [Balances, owes, Op.owes, Note.closes, teardowns_add]
  | fail identity ticket fault => simp [Balances, owes, Op.owes, Note.closes]
  | attach identity ticket made => exact balances_of_sessions rfl rfl rfl
  | map identity ticket made => exact balances_of_sessions rfl rfl rfl

/-! ## Runs -/

/-- What every run keeps of the closing of the client with a number. -/
structure Balanced (run : Run) (number : Nat) : Prop where
  orderly : run.AllAt Op.Orderly
  /-- Whatever was turned inactive is still to be closed or was closed. -/
  balance : closings run number + run.members.countP (owes number) = teardowns run.state number

theorem teardowns_le_one (fleet : Fleet) (number : Nat) : teardowns fleet number ≤ 1 := by
  unfold teardowns
  split
  case h_1 session _ => exact Bool.toNat_le _
  case h_2 => exact Nat.zero_le 1

theorem teardowns_of_closed (closed : ∃ session, fleet.registry.sessions[number]? = some session ∧
    session.active = false) : teardowns fleet number = 1 := by
  obtain ⟨session, held, inactive⟩ := closed
  simp [teardowns, held, Session.teardowns, inactive]

/-- Whoever still has to close a client has closed its session. -/
theorem Balanced.known (balanced : Balanced run number)
    (held : run.members[member]? = some (.running op)) (owed : op.owes number = true) :
    ∃ session, run.state.registry.sessions[number]? = some session := by
  have positive : 0 < run.members.countP (owes number) :=
    List.countP_pos_iff.2 ⟨.running op, List.mem_of_getElem? held, owed⟩
  have begun : teardowns run.state number ≠ 0 := by
    have := balanced.balance
    omega
  cases found : run.state.registry.sessions[number]? with
  | some session => exact ⟨session, rfl⟩
  | none => simp [teardowns, found] at begun

theorem balanced_launch (balanced : Balanced run number) {op : Registry.Op} (begins : op.Begins) :
    Balanced (launch run op) number where
  orderly := by
    refine Crew.allAt_enter balanced.orderly ?_
    cases begins <;> trivial
  balance := by
    have free : owes number (.running (.plain op) : Progress Op Result) = false := by
      cases begins <;> simp [owes, Op.owes, Session.Op.isTearing]
    have silent : [Note.begun op].countP (Note.closes number) = 0 := rfl
    rw [closings, launch, Crew.countP_log_enter, silent, Crew.countP_members_enter, free]
    exact balanced.balance

theorem teardowns_of_drifts {event : Event} {other : Nat} {state : Fleet}
    (drifts : Drifts fleet event other state) (number : Nat) :
    teardowns state number = teardowns fleet number := by
  obtain ⟨⟨settles, _, active⟩, _⟩ := registry_of_drifts drifts
  have same := active number
  simp only [Registry.isActive] at same
  cases held : fleet.registry.sessions[number]? with
  | some session =>
    obtain ⟨later, held', _⟩ := settles.grows number session held
    rw [held, held'] at same
    simp [teardowns, held, held', Session.teardowns, same]
  | none =>
    have beyond : state.registry.sessions[number]? = none := by
      rw [List.getElem?_eq_none_iff] at held ⊢
      rw [settles.length]
      exact held
    simp [teardowns, held, beyond]

theorem balanced_drift (balanced : Balanced run number) {event : Event} {other : Nat} {state : Fleet}
    (drifts : Drifts run.state event other state) : Balanced (run.drift state []) number where
  orderly := balanced.orderly
  balance := by
    rw [closings, Crew.countP_log_drift, Crew.state_drift, teardowns_of_drifts drifts]
    exact balanced.balance

theorem balanced_follow (balanced : Balanced run number)
    (held : run.members[member]? = some (.running op)) (moved : Moves run.state op notes move) :
    Balanced (run.follow member move notes) number where
  orderly :=
    Crew.allAt_follow held balanced.orderly (fun _ => id) fun later comes =>
      orderly_of_moves (balanced.orderly member op held) moved comes
  balance := by
    have before := balanced.balance
    have kept : Balances run.state number op notes move :=
      balances_of_moves (balanced.orderly member op held) moved (balanced.known held)
    have counted := Crew.countP_members_follow held move notes (owes number)
    have toNat : ∀ flag : Bool, flag.toNat = if flag = true then 1 else 0 := by decide
    have same : owes number (.running op : Progress Op Result) = op.owes number := rfl
    rw [Balances, toNat, toNat] at kept
    rw [same] at counted
    rw [closings] at before ⊢
    rw [Crew.countP_log_follow, Crew.state_follow]
    omega

theorem balanced_onward (balanced : Balanced run number) (events : List Event) :
    Balanced (onward run events) number := by
  refine @onward_induction (Balanced · number) ?_ run balanced events
  intro middle event balanced
  refine @act_induction (Balanced · number) middle event balanced ?launches ?moves ?drifts
  case launches => exact fun _ _ begins balanced => balanced_launch balanced begins
  case moves => exact fun _ _ _ _ _ held moved => balanced_follow balanced held moved
  case drifts => exact fun _ _ _ drifts => balanced_drift balanced drifts

theorem balanced_run (receiveTimeout : Nat) (events : List Event) (number : Nat) :
    Balanced (Fleet.run receiveTimeout events) number := by
  refine balanced_onward ⟨?_, rfl⟩ events
  intro member op held
  cases held

theorem Balanced.closings_le_one (balanced : Balanced run number) : closings run number ≤ 1 := by
  have := balanced.balance
  have := teardowns_le_one run.state number
  omega

/-- Once a session is closed and nobody is to close its client any more, that has happened once. -/
theorem Balanced.closings_eq_one (balanced : Balanced run number)
    (closed : ∃ session, run.state.registry.sessions[number]? = some session ∧ session.active = false)
    (finished : ∀ progress ∈ run.members, owes number progress = false) :
    closings run number = 1 := by
  have settled : run.members.countP (owes number) = 0 := by
    rw [List.countP_eq_zero]
    intro progress member
    simp [finished progress member]
  have := balanced.balance
  rw [teardowns_of_closed closed] at this
  omega

end Fleet

end DeviceGateway
