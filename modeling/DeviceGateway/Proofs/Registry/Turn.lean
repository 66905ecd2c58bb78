/-
# Taking turns

Those who want to make a session stand in a line.  The invariant is about the tickets: nobody shares one,
every ticket that somebody holds stands in the line, and whoever is past waiting holds the first one.
So only one operation at a time is past waiting, and in particular only one has asked the provider for a
client.
-/

import DeviceGateway.Proofs.Registry.Run

namespace DeviceGateway

/-- Whoever is first stays so when somebody joins. -/
theorem Line.isFirst_join {line : Line} {ticket : Nat} (first : line.isFirst ticket = true) :
    line.join.isFirst ticket = true := by
  simp only [isFirst, beq_iff_eq] at first ⊢
  cases line with
  | mk next waiting =>
    cases waiting with
    | nil => cases first
    | cons head rest => exact first

namespace Registry

/-- The ticket an operation holds. -/
def Op.ticket? : Op → Option Nat
  | waiting _ ticket | findAgain _ ticket | creating _ ticket | leave ticket _ => some ticket
  | _ => none

/-- Whether it is the turn of an operation. -/
def Op.hasTurn : Op → Bool
  | findAgain _ _ | creating _ _ | leave _ _ => true
  | _ => false

def ticketOf : Progress Op Result → Option Nat
  | .running op => op.ticket?
  | .ended _ => none

def hasTurn : Progress Op Result → Bool
  | .running op => op.hasTurn
  | .ended _ => false

/-- The place of everybody in the line. -/
structure InLine (makers : Line) (members : List (Progress Op Result)) : Prop where
  known : ∀ ticket ∈ makers.waiting, ticket < makers.next
  held : ∀ (member : Nat) progress ticket, members[member]? = some progress →
    ticketOf progress = some ticket → ticket ∈ makers.waiting
  apart : ∀ (first second : Nat) one other ticket, members[first]? = some one →
    members[second]? = some other → ticketOf one = some ticket → ticketOf other = some ticket →
      first = second
  turn : ∀ (member : Nat) progress ticket, members[member]? = some progress →
    ticketOf progress = some ticket → hasTurn progress = true → makers.isFirst ticket = true

/-- What a move means for the line. -/
inductive LineMove (makers : Line) (op : Op) : Line → Progress Op Result → Prop
  | stays {progress : Progress Op Result} (same : ticketOf progress = op.ticket?)
      (turn : ∀ ticket, op.ticket? = some ticket → hasTurn progress = true →
        op.hasTurn = true ∨ makers.isFirst ticket = true) : LineMove makers op makers progress
  | joins {progress : Progress Op Result} (before : op.ticket? = none)
      (after : ticketOf progress = some makers.next) (waits : hasTurn progress = false) :
      LineMove makers op makers.join progress
  | leaves {progress : Progress Op Result} {ticket : Nat} (before : op.ticket? = some ticket)
      (turn : op.hasTurn = true) (after : ticketOf progress = none) :
      LineMove makers op (makers.leave ticket) progress

/-- A move that has to do with no ticket at all. -/
theorem LineMove.aside {makers after : Line} {op : Op} {progress : Progress Op Result}
    (same : after = makers) (before : op.ticket? = none) (free : ticketOf progress = none) :
    LineMove makers op after progress := by
  subst same
  refine .stays (free.trans before.symm) ?_
  intro ticket found
  rw [before] at found
  cases found

theorem ticketOf_afterSession (registry : Registry) (number : Nat) (result : Session.Result)
    (purpose : Purpose) :
    ticketOf (registry.afterSession number result purpose).progress = none := by
  cases purpose with
  | request => rfl
  | closing => cases result <;> rfl
  | eviction =>
    simp only [afterSession]
    split <;> rfl

theorem ticketOf_ofSessionMove (registry : Registry) (purpose : Purpose) (number : Nat)
    (move : Move Session Session.Op Session.Result) :
    ticketOf (registry.ofSessionMove purpose number move).progress = none := by
  cases move with
  | go session op => rfl
  | done session result => exact ticketOf_afterSession ..

theorem makers_hear (registry : Registry) (identity : Identity) (status : ConnectionStatus)
    (reason : StatusReason) : (registry.hear identity status reason).makers = registry.makers := by
  unfold hear
  split
  case isTrue =>
    unfold evictInactive
    split
    case h_1 => split <;> rfl
    case h_2 => rfl
  case isFalse => rfl

theorem lineMove_step {registry : Registry} {op : Op} (can : registry.canStep op = true) :
    LineMove registry.makers op (registry.step op).state.makers (registry.step op).progress := by
  cases op with
  | find identity =>
    simp only [step]
    split <;> exact .aside rfl rfl rfl
  | join identity => exact .joins rfl rfl rfl
  | waiting identity ticket =>
    simp only [step]
    split
    case isTrue first =>
      refine .stays rfl ?_
      intro other found _
      obtain rfl := Option.some.inj found
      exact .inr first
    case isFalse =>
      refine .stays rfl ?_
      intro other _ turn
      cases turn
  | findAgain identity ticket =>
    simp only [step]
    split <;> exact .stays rfl fun _ _ _ => .inl rfl
  | creating identity ticket => cases can
  | leave ticket answer => exact .leaves rfl rfl rfl
  | close identity =>
    simp only [step]
    split
    case h_1 =>
      split
      case h_1 =>
        refine .aside ?_ rfl (ticketOf_ofSessionMove ..)
        rw [state_ofSessionMove]
        rfl
      case h_2 => exact .aside rfl rfl rfl
    case h_2 => exact .aside rfl rfl rfl
  | onSession purpose number op =>
    simp only [step]
    split
    case h_1 session _ =>
      split
      case h_1 status reason _ =>
        refine .aside ?_ rfl (ticketOf_ofSessionMove ..)
        rw [state_ofSessionMove]
        exact makers_hear registry session.identity status reason
      case h_2 => exact .aside rfl rfl rfl
      case h_3 =>
        refine .aside ?_ rfl (ticketOf_ofSessionMove ..)
        rw [state_ofSessionMove]
        rfl
    case h_2 => exact .aside rfl rfl rfl
  | evict identity =>
    refine .aside ?_ rfl rfl
    simp only [step, evictInactive, Move.state_done]
    split
    case h_1 => split <;> rfl
    case h_2 => rfl

theorem ticketOf_resume (registry : Registry) (stamp : String) (answer : ClientAnswer)
    (purpose : Purpose) (number : Nat) (op : Session.Op) :
    ticketOf (registry.resume stamp answer (.onSession purpose number op)).progress = none := by
  simp only [resume]
  split
  case h_1 => exact ticketOf_ofSessionMove ..
  case h_2 => rfl

/-- An operation that gets the answer of a client has nothing to do with the line. -/
theorem lineMove_resume (registry : Registry) (stamp : String) (answer : ClientAnswer)
    (purpose : Purpose) (number : Nat) (op : Session.Op) :
    LineMove registry.makers (.onSession purpose number op)
      (registry.resume stamp answer (.onSession purpose number op)).state.makers
      (registry.resume stamp answer (.onSession purpose number op)).progress := by
  refine .aside ?_ rfl (ticketOf_resume ..)
  simp only [resume]
  split
  case h_1 => rw [state_ofSessionMove, putSession]
  case h_2 => rfl

theorem lineMove_of_moves {registry : Registry} {op : Op} {told : List Note}
    {move : Move Registry Op Result} (moved : Moves registry op told move) :
    LineMove registry.makers op move.state.makers move.progress := by
  cases moved with
  | step can => exact lineMove_step can
  | provision identity ticket answer =>
    cases answer <;> exact .stays rfl fun _ _ _ => .inl rfl
  | answer stamp waits admitted =>
    cases op with
    | onSession purpose number op => exact lineMove_resume ..
    | _ => cases waits

/-! ## What the line keeps -/

variable {run : Run} {member : Nat} {op : Op} {move : Move Registry Op Result} {notes : List Note}

theorem inLine_launch (inLine : InLine run.state.makers run.members) (begins : op.Begins) :
    InLine (launch run op).state.makers (launch run op).members := by
  have free : op.ticket? = none := by cases begins <;> rfl
  have old : ∀ (member : Nat) progress ticket, (launch run op).members[member]? = some progress →
      ticketOf progress = some ticket → run.members[member]? = some progress := by
    intro member progress ticket found holds
    rw [launch, Crew.members_enter] at found
    split at found
    case isTrue =>
      obtain rfl := Option.some.inj found
      rw [ticketOf, free] at holds
      cases holds
    case isFalse => exact found
  constructor
  case known => exact inLine.known
  case held =>
    intro member progress ticket found holds
    exact inLine.held member progress ticket (old _ _ _ found holds) holds
  case apart =>
    intro first second one other ticket found found' holds holds'
    exact inLine.apart first second one other ticket (old _ _ _ found holds)
      (old _ _ _ found' holds') holds holds'
  case turn =>
    intro member progress ticket found holds turn
    exact inLine.turn member progress ticket (old _ _ _ found holds) holds turn

/-- Nobody but the operation that moves is concerned by its move. -/
theorem members_follow_cases (held : run.members[member]? = some (.running op)) {other : Nat}
    {progress : Progress Op Result}
    (found : (run.follow member move notes).members[other]? = some progress) :
    other = member ∧ progress = move.progress ∨
      other ≠ member ∧ run.members[other]? = some progress := by
  rw [Crew.members_follow held] at found
  split at found
  case isTrue same => exact .inl ⟨same, (Option.some.inj found).symm⟩
  case isFalse apart => exact .inr ⟨apart, found⟩

/-- A move that leaves the line alone keeps everybody in place if whoever has its turn afterwards is
first. -/
theorem inLine_stays (inLine : InLine run.state.makers run.members)
    (held : run.members[member]? = some (.running op))
    (same : ticketOf move.progress = op.ticket?)
    (turn : ∀ ticket, op.ticket? = some ticket → hasTurn move.progress = true →
      op.hasTurn = true ∨ run.state.makers.isFirst ticket = true) :
    InLine run.state.makers (run.follow member move notes).members := by
  have before : ∀ (other : Nat) later ticket,
      (run.follow member move notes).members[other]? = some later → ticketOf later = some ticket →
        ∃ earlier, run.members[other]? = some earlier ∧ ticketOf earlier = some ticket := by
    intro other later ticket found holds
    rcases members_follow_cases held found with ⟨rfl, rfl⟩ | ⟨_, kept⟩
    · exact ⟨_, held, by rw [← holds, same]; rfl⟩
    · exact ⟨later, kept, holds⟩
  constructor
  case known => exact inLine.known
  case held =>
    intro other later ticket found holds
    obtain ⟨earlier, found, holds⟩ := before other later ticket found holds
    exact inLine.held other earlier ticket found holds
  case apart =>
    intro first second one other ticket found found' holds holds'
    obtain ⟨_, found, holds⟩ := before first one ticket found holds
    obtain ⟨_, found', holds'⟩ := before second other ticket found' holds'
    exact inLine.apart first second _ _ ticket found found' holds holds'
  case turn =>
    intro other later ticket found holds its
    rcases members_follow_cases held found with ⟨rfl, rfl⟩ | ⟨_, kept⟩
    · rw [same] at holds
      rcases turn ticket holds its with had | first
      · exact inLine.turn other _ ticket held holds had
      · exact first
    · exact inLine.turn other later ticket kept holds its

/-- Whoever joins the line gets a ticket that nobody holds and waits. -/
theorem inLine_joins (inLine : InLine run.state.makers run.members)
    (held : run.members[member]? = some (.running op))
    (after : ticketOf move.progress = some run.state.makers.next)
    (waits : hasTurn move.progress = false) :
    InLine run.state.makers.join (run.follow member move notes).members := by
  have fresh : ∀ (other : Nat) later, run.members[other]? = some later →
      ticketOf later ≠ some run.state.makers.next := by
    intro other later found holds
    exact Nat.lt_irrefl _ (inLine.known _ (inLine.held other later _ found holds))
  constructor
  case known =>
    intro ticket inside
    rcases (Line.mem_waiting_join ..).1 inside with old | rfl
    · exact Nat.lt_succ_of_lt (inLine.known ticket old)
    · exact Nat.lt_succ_self _
  case held =>
    intro other later ticket found holds
    rw [Line.mem_waiting_join]
    rcases members_follow_cases held found with ⟨rfl, rfl⟩ | ⟨_, kept⟩
    · rw [after] at holds
      exact .inr (Option.some.inj holds).symm
    · exact .inl (inLine.held other later ticket kept holds)
  case apart =>
    intro first second one other ticket found found' holds holds'
    rcases members_follow_cases held found with ⟨rfl, rfl⟩ | ⟨_, kept⟩ <;>
      rcases members_follow_cases held found' with ⟨rfl, rfl⟩ | ⟨_, kept'⟩
    · rfl
    · rw [after] at holds
      exact absurd (holds'.trans holds.symm) (fresh second other kept')
    · rw [after] at holds'
      exact absurd (holds.trans holds'.symm) (fresh first one kept)
    · exact inLine.apart first second one other ticket kept kept' holds holds'
  case turn =>
    intro other later ticket found holds its
    rcases members_follow_cases held found with ⟨rfl, rfl⟩ | ⟨_, kept⟩
    · rw [waits] at its
      cases its
    · exact Line.isFirst_join (inLine.turn other later ticket kept holds its)

/-- Whoever leaves the line was first in it, so that nobody else has its turn. -/
theorem inLine_leaves (inLine : InLine run.state.makers run.members)
    (held : run.members[member]? = some (.running op)) {own : Nat} (before : op.ticket? = some own)
    (turn : op.hasTurn = true) (after : ticketOf move.progress = none) :
    InLine (run.state.makers.leave own) (run.follow member move notes).members := by
  have others : ∀ (other : Nat) later ticket,
      (run.follow member move notes).members[other]? = some later → ticketOf later = some ticket →
        other ≠ member ∧ run.members[other]? = some later := by
    intro other later ticket found holds
    rcases members_follow_cases held found with ⟨rfl, rfl⟩ | kept
    · rw [after] at holds
      cases holds
    · exact kept
  constructor
  case known =>
    intro ticket inside
    exact inLine.known ticket ((Line.mem_waiting_leave ..).1 inside).1
  case held =>
    intro other later ticket found holds
    obtain ⟨apart, kept⟩ := others other later ticket found holds
    refine (Line.mem_waiting_leave ..).2 ⟨inLine.held other later ticket kept holds, ?_⟩
    rintro rfl
    exact apart (inLine.apart other member later _ _ kept held holds before)
  case apart =>
    intro first second one other ticket found found' holds holds'
    exact inLine.apart first second one other ticket (others _ _ _ found holds).2
      (others _ _ _ found' holds').2 holds holds'
  case turn =>
    intro other later ticket found holds its
    obtain ⟨apart, kept⟩ := others other later ticket found holds
    have first := inLine.turn other later ticket kept holds its
    obtain rfl := Line.eq_of_isFirst first (inLine.turn member _ own held before turn)
    exact absurd (inLine.apart other member later _ ticket kept held holds before) apart

theorem inLine_follow (inLine : InLine run.state.makers run.members)
    (held : run.members[member]? = some (.running op))
    (moved : LineMove run.state.makers op move.state.makers move.progress) :
    InLine (run.follow member move notes).state.makers (run.follow member move notes).members := by
  rw [Crew.state_follow]
  generalize reached : move.progress = progress at moved
  generalize move.state.makers = makers at moved
  cases moved with
  | stays same turn =>
    subst reached
    exact inLine_stays inLine held same turn
  | joins before after waits =>
    subst reached
    exact inLine_joins inLine held after waits
  | leaves before turn after =>
    subst reached
    exact inLine_leaves inLine held before turn after

/-- It is the turn of one operation at a time. -/
theorem InLine.unique {makers : Line} {members : List (Progress Op Result)} {first second : Nat}
    {one other : Op} (inLine : InLine makers members)
    (held : members[first]? = some (.running one)) (held' : members[second]? = some (.running other))
    (turn : one.hasTurn = true) (turn' : other.hasTurn = true) : first = second := by
  have ticket : ∀ op : Op, op.hasTurn = true → ∃ ticket, ticketOf (.running op) = some ticket := by
    intro op turn
    cases op with
    | findAgain _ ticket | creating _ ticket | leave ticket _ => exact ⟨ticket, rfl⟩
    | _ => cases turn
  obtain ⟨own, holds⟩ := ticket one turn
  obtain ⟨own', holds'⟩ := ticket other turn'
  have same := Line.eq_of_isFirst (inLine.turn first _ own held holds turn)
    (inLine.turn second _ own' held' holds' turn')
  exact inLine.apart first second _ _ own held held' holds (same ▸ holds')

end Registry

end DeviceGateway
