/-
# A session is torn down once

Several operations may find at the same time that a session has to be closed: its owner asks for it more
than once, and more than one message may come back with rejected credentials.  The one that finds the
session active turns it inactive, and the teardown is its own from then on.

Since a session turns inactive only once, only one operation has the course of a teardown to follow, and
what the story of that operation says about its teardown holds for the whole run.  The others that were
to close the session find it inactive, so that it is so when any of them has ended.
-/

import DeviceGateway.Proofs.Session.Stories

namespace DeviceGateway

namespace Session

variable {session : Session} {command : Command} {story notes : List Note} {result : Answer Unit}

/-! ## Operations that have to turn the session inactive -/

/-- Whether an operation was told, while it was sending, that the hub rejects its credentials. -/
def Rejected (story : List Note) : Prop :=
  ∃ command call answer fault, .begun command ∈ story ∧ command.isSend = true ∧
    .answered call answer ∈ story ∧ call.isSend = true ∧ answer.outcome = .error fault ∧
      ((∃ identity reason, fault = .unauthorized identity reason) ∨
        ∃ reason, fault = .requestFailed 401 reason)

/-- Whoever closes the session, or has met rejected credentials, is about to turn it inactive, unless it
is so. -/
def Struck (session : Session) (story : List Note) (progress : Progress Op Result) : Prop :=
  .begun .close ∈ story ∨ Rejected story →
    (∃ op, progress = .running op ∧ op.isClaiming = true) ∨ session.active = false

theorem answered_not_mem_notesOf {call : ClientCall} {answer : ClientAnswer}
    {move : Move Session Op Result} : .answered call answer ∉ session.notesOf move := by
  intro member
  rcases List.mem_append.1 member with turned | later
  · split at turned <;> simp at turned
  · cases move with
    | go state op => simp at later
    | done state result => simp at later

/-- Rejected credentials come with the answer to a call that sends, or were met before. -/
theorem rejected_of_moves {op : Op} {told : List Note} {move : Move Session Op Result}
    (moved : Moves session op told move)
    (rejected : Rejected (story ++ (told ++ session.notesOf move))) :
    Rejected story ∨ ∃ stamp call answer fault, op.request? = some (.call call) ∧
      call.isSend = true ∧ answer.outcome = .error fault ∧ fault.isUnauthorized = true ∧
        move = session.resume stamp answer op := by
  obtain ⟨command, call, answer, fault, begun, sends, answered, sending, failed, rejects⟩ := rejected
  have begun : .begun command ∈ story :=
    (List.mem_append.1 begun).resolve_right (begun_not_mem_of_moves moved command)
  rcases List.mem_append.1 answered with old | new
  · exact .inl ⟨command, call, answer, fault, begun, sends, old, sending, failed, rejects⟩
  · have told' := (List.mem_append.1 new).resolve_right answered_not_mem_notesOf
    cases moved with
    | answer stamp waits admitted =>
      obtain ⟨rfl, rfl⟩ := Note.answered.inj (List.mem_singleton.1 told')
      exact .inr ⟨stamp, _, _, fault, waits, sending, failed, fault.isUnauthorized_iff.2 rejects, rfl⟩
    | step | hearing => cases told'

/-- Whoever meets rejected credentials while it sends goes on to turn the session inactive. -/
theorem Suits.claim_of_rejected {op : Op} {call : ClientCall} {answer : ClientAnswer} {fault : Fault}
    (suits : Suits session command story (.running op)) (waits : op.request? = some (.call call))
    (sending : call.isSend = true) (failed : answer.outcome = .error fault)
    (rejects : fault.isUnauthorized = true) (stamp : String) :
    session.resume stamp answer op = .go session (.claim (.rejected fault)) := by
  cases op with
  | sending call' => simp [resume, failed, rejects]
  | passing call' =>
    obtain rfl := Request.call.inj (Option.some.inj waits)
    rw [suits.2.2.2] at sending
    cases sending
  | fetching | closingClient cause result =>
    obtain rfl := Request.call.inj (Option.some.inj waits)
    cases sending
  | onInbox purpose number op =>
    simp only [Op.request?] at waits
    cases awaits : op.awaits with
    | none => simp [awaits] at waits
    | some call' =>
      obtain ⟨kind, callback, rfl⟩ := Inbox.Op.awaits_eq_some awaits
      obtain rfl : .setCallback kind callback = call := by simpa [awaits] using waits
      cases sending
  | _ => cases waits

theorem struck_of_moves {op : Op} {told : List Note} {move : Move Session Op Result}
    (moved : Moves session op told move) (fits : Fits session story (.running op))
    (struck : Struck session story (.running op)) :
    Struck move.state (story ++ (told ++ session.notesOf move)) move.progress := by
  intro cause
  obtain ⟨command, _, suits⟩ := fits
  have before : (.begun .close ∈ story ∨ Rejected story) ∨ ∃ stamp call answer fault,
      op.request? = some (.call call) ∧ call.isSend = true ∧ answer.outcome = .error fault ∧
        fault.isUnauthorized = true ∧ move = session.resume stamp answer op := by
    rcases cause with begun | rejected
    · exact .inl (.inl ((List.mem_append.1 begun).resolve_right (begun_not_mem_of_moves moved _)))
    · exact (rejected_of_moves moved rejected).imp_left .inr
  rcases before with before | ⟨stamp, call, answer, fault, waits, sending, failed, rejects, rfl⟩
  · rcases struck before with ⟨op', same, claims⟩ | inactive
    · obtain rfl := Progress.running.inj same
      have free := request?_of_isClaiming claims
      cases moved with
      | step =>
        refine (isClaiming_step claims).imp_left ?_
        rintro ⟨state, later, goes, claims⟩
        exact ⟨later, by rw [goes, Move.progress_go], claims⟩
      | answer _ waits | hearing waits =>
        rw [free] at waits
        cases waits
    · exact .inr ((evolves_of_moves moved).inactive inactive)
  · rw [suits.claim_of_rejected waits sending failed rejects stamp]
    exact .inl ⟨_, rfl, rfl⟩

/-- What other operations do to the session does not make it active again. -/
theorem Struck.evolves {after : Session} {progress : Progress Op Result}
    (struck : Struck session story progress) (evolves : Evolves session after) :
    Struck after story progress :=
  fun cause => (struck cause).imp_right evolves.inactive

/-! ## Runs -/

/-- What every run keeps of a session whose reports somebody wants to hear, or nobody. -/
structure InOrder (heard : Bool) (run : Run) : Prop where
  tidy : run.Tidy
  reports : run.state.reports = heard
  /-- Nothing of what is noted happens outside of the operations. -/
  owned : ∀ owner note, (owner, note) ∈ run.log → owner.isSome = true
  bound : ∀ number, run.state.bound = some number → number < run.state.inboxes.length
  /-- A session that is inactive was turned so once. -/
  turns : (run.log.countP fun entry => entry.2.isTurn) = if run.state.active then 0 else 1
  stories : run.Keeps Fits
  struck : run.Keeps Struck

/-- A move that turns a session inactive notes it, and no other does. -/
theorem countP_isTurn_notesOf {move : Move Session Op Result}
    (evolves : Evolves session move.state) :
    (if session.active then 0 else 1) + (session.notesOf move).countP Note.isTurn =
      if move.state.active then 0 else 1 := by
  have later : ∀ op, (Option.map Note.asked (Op.request? op)).toList.countP Note.isTurn = 0 := by
    intro op
    cases op.request? <;> rfl
  have monotone := evolves.active
  unfold notesOf
  rw [List.countP_append]
  cases before : session.active <;> cases after : move.state.active
  case false.true => simp [before, after] at monotone
  all_goals cases move <;> simp [later, Note.isTurn]

theorem inOrder_fresh (identity : Identity) (reports : Bool) (receiveTimeout : Nat) :
    InOrder reports { state := fresh identity reports receiveTimeout } where
  tidy := by intro number note member; cases member
  reports := rfl
  owned := by intro owner note member; cases member
  bound := by intro number found; cases found
  turns := rfl
  stories := by intro number progress found; cases found
  struck := by intro number progress found; cases found

theorem inOrder_act {heard : Bool} {run : Run} (inOrder : InOrder heard run) (event : Event) :
    InOrder heard (act run event) := by
  refine act_induction inOrder ?begins ?moves ?loops event
  case begins =>
    intro command
    refine ⟨Crew.tidy_enter inOrder.tidy _, inOrder.reports, ?_, inOrder.bound, ?_, ?_, ?_⟩
    · intro owner note member
      rcases (Crew.mem_log_enter _).1 member with old | ⟨rfl, _⟩
      · exact inOrder.owned owner note old
      · rfl
    · rw [Crew.countP_log_enter, inOrder.turns]
      rfl
    · exact Crew.keeps_enter inOrder.tidy inOrder.stories ⟨command, by simp, rfl, rfl⟩
    · apply Crew.keeps_enter inOrder.tidy inOrder.struck
      rintro (begun | ⟨_, _, _, _, _, _, answered, _⟩)
      · obtain rfl : .close = command := by simpa using begun
        exact .inl ⟨_, rfl, rfl⟩
      · simp at answered
  case moves =>
    intro member op told move held moved
    have evolves := evolves_of_moves moved
    refine ⟨Crew.tidy_follow held inOrder.tidy, evolves.reports.trans inOrder.reports, ?_,
      evolves.bound inOrder.bound, ?_, ?_, ?_⟩
    · intro owner note noted
      rcases Crew.mem_log_follow.1 noted with old | ⟨rfl, _⟩
      · exact inOrder.owned owner note old
      · rfl
    · have told : told.countP Note.isTurn = 0 := by cases moved <;> rfl
      rw [Crew.countP_log_follow, List.countP_append, told, Nat.zero_add, inOrder.turns]
      exact countP_isTurn_notesOf evolves
    · apply Crew.keeps_follow held inOrder.stories
      · intro story progress fits
        exact fits.evolves evolves
      · exact fits_of_moves inOrder.bound moved
    · have fits := inOrder.stories member _ held
      apply Crew.keeps_follow held inOrder.struck
      · intro story progress struck
        exact struck.evolves evolves
      · exact struck_of_moves moved fits
  case loops =>
    intro number event
    have evolves := evolves_mapInbox run.state number fun inbox => inbox.onLoop event
    refine ⟨Crew.tidy_drift inOrder.tidy _, evolves.reports.trans inOrder.reports, ?_,
      evolves.bound inOrder.bound, ?_, ?_, ?_⟩
    · simpa [Crew.drift] using inOrder.owned
    · rw [Crew.countP_log_drift, inOrder.turns, Crew.state_drift, active_mapInbox]
      rfl
    · apply Crew.keeps_drift inOrder.stories
      intro story progress fits
      exact fits.evolves evolves
    · apply Crew.keeps_drift inOrder.struck
      intro story progress struck
      exact struck.evolves evolves

theorem inOrder_run (identity : Identity) (reports : Bool) (receiveTimeout : Nat)
    (events : List Event) :
    InOrder reports (run (fresh identity reports receiveTimeout) events) := by
  apply List.foldlRecOn (motive := InOrder reports)
  · exact inOrder_fresh identity reports receiveTimeout
  · intro before inOrder event _
    exact inOrder_act inOrder event

/-! ## What a story says about the teardown -/

variable {progress : Progress Op Result}

/-- A story holds a beginning of one course, and the report comes last. -/
theorem Suits.isPrefix (suits : Suits session command story progress) :
    ∃ answer, teardownOf story <+: course answer ++ [expiry] := by
  have early : ∀ seen rest, teardownOf story = seen → seen ++ rest = course (.done (.ok ())) ++ [expiry] →
      ∃ answer, teardownOf story <+: course answer ++ [expiry] := by
    rintro seen rest rfl whole
    exact ⟨_, rest, whole⟩
  cases progress with
  | ended result =>
    rcases suits with ⟨plain, _⟩ | ⟨answer, ⟨whole, _⟩ | ⟨whole, _⟩⟩
    · exact early _ _ plain rfl
    · exact ⟨answer, [expiry], by rw [whole]⟩
    · refine ⟨answer, ?_⟩
      rw [whole]
      split
      case isTrue => exact List.prefix_refl _
      case isFalse => exact ⟨[expiry], by rw [List.append_nil]⟩
  | running op =>
    cases op with
    | begin first =>
      obtain ⟨rfl, rfl⟩ := suits
      exact early [] _ rfl rfl
    | onInbox purpose number op => cases purpose <;> exact early _ _ suits.1 rfl
    | reporting fault =>
      obtain ⟨answer, whole⟩ := suits.2.2
      exact ⟨answer, [], by rw [whole, List.append_nil]⟩
    | _ => exact early _ _ suits.1 rfl

/-- Whoever has turned the session inactive was asked to close it, or met rejected credentials. -/
theorem Suits.cause_of_turned (suits : Suits session command story progress)
    (turned : .turned ∈ story) :
    command = .close ∨ ∃ fault, (Cause.rejected fault).Suits command story (.ok ()) := by
  have noted : Note.turned ∈ teardownOf story := List.mem_filter.2 ⟨turned, rfl⟩
  have never : teardownOf story ≠ [] := List.ne_nil_of_mem noted
  have caused : ∀ (cause : Cause) result, cause.Suits command story result →
      command = .close ∨ ∃ fault, (Cause.rejected fault).Suits command story (.ok ()) := by
    intro cause result suits
    cases cause with
    | asked => exact .inl suits.1
    | rejected fault => exact .inr ⟨fault, suits⟩
  cases progress with
  | ended result =>
    rcases suits with ⟨plain, _⟩ | ⟨answer, ⟨_, closes, _⟩ | ⟨_, fault, suits⟩⟩
    · exact absurd plain never
    · exact .inl closes
    · exact .inr ⟨fault, suits⟩
  | running op =>
    cases op with
    | begin first =>
      obtain ⟨rfl, rfl⟩ := suits
      exact absurd rfl never
    | onInbox purpose number op =>
      cases purpose with
      | teardown cause =>
        obtain ⟨_, _, result, _, suits⟩ := suits
        exact caused cause result suits
      | request | replacement | orphan => exact absurd suits.1 never
    | claim cause | detach cause | closingClient cause inbox => exact caused cause _ suits.2
    | reporting fault => exact caused (.rejected fault) _ suits.2.1
    | _ => exact absurd suits.1 never

/-! ## The teardown of a session -/

/-- What it means that a session is torn down once in a run, where `heard` says whether somebody
wants to hear its report. -/
structure TornDownOnce (heard : Bool) (run : Run) : Prop where
  /-- A session is turned inactive once, unless it is active. -/
  turns : (run.log.countP fun entry => entry.2.isTurn) = if run.state.active then 0 else 1
  /-- Whoever turns it inactive closes it, or has met rejected credentials while sending. -/
  turner : ∀ member, .turned ∈ run.story member →
    .begun .close ∈ run.story member ∨ Rejected (run.story member)
  /-- Whoever has closed it, or has met rejected credentials while sending, leaves it inactive. -/
  struck : ∀ member, Ended run member →
    .begun .close ∈ run.story member ∨ Rejected (run.story member) → run.state.active = false
  /-- The client is closed at most once, by whoever turned the session inactive. -/
  closings : (run.log.countP fun entry => entry.2.isClosing) ≤ 1
  closer : ∀ member, .asked (.call .close) ∈ run.story member → .turned ∈ run.story member
  /-- Nothing keeps whoever turned the session inactive from closing the client. -/
  closed : ∀ member, Ended run member → .turned ∈ run.story member →
    .asked (.call .close) ∈ run.story member
  /-- When no operation is under way, the client has been closed once if the session is inactive. -/
  whole : (∀ member, member < run.members.length → Ended run member) →
    (run.log.countP fun entry => entry.2.isClosing) = if run.state.active then 0 else 1
  /-- Closing a session answers that it is not in order just if it was the operation that tore the
  session down and one of its calls failed. -/
  answer : ∀ member result, run.members[member]? = some (.ended result) →
    .begun .close ∈ run.story member → ∃ clean, result = .closed clean ∧
      (clean = false ↔ .turned ∈ run.story member ∧
        ∃ call answer, .answered call answer ∈ run.story member ∧ answer.outcome.isOk = false)
  /-- There is at most one report, and it says that the credentials expired. -/
  reports : (run.log.countP fun entry => entry.2.isReport) ≤ 1
  report : ∀ member status reason, .asked (.report status reason) ∈ run.story member →
    status = .disconnected ∧ reason = .expiredCredential
  /-- The report comes after the teardown, whose last step is that the client is closed. -/
  order : ∀ member status reason earlier later,
    run.story member = earlier ++ .asked (.report status reason) :: later →
      ∃ answer, .answered .close answer ∈ earlier
  /-- A report is made just if somebody wants to hear it and the session was not closed by its
  owner. -/
  reported : ∀ member, Ended run member →
    ((∃ status reason, .asked (.report status reason) ∈ run.story member) ↔
      heard = true ∧ .turned ∈ run.story member ∧ .begun .close ∉ run.story member)

section

variable {heard : Bool} {run : Run} {member : Nat}

/-- An entry of the log belongs to an operation, and the story of that operation suits its position. -/
theorem InOrder.suits (inOrder : InOrder heard run) {note : Note}
    (noted : note ∈ run.story member) : ∃ command progress,
      run.members[member]? = some progress ∧
        (∀ other, .begun other ∈ run.story member ↔ other = command) ∧
          Suits run.state command (run.story member) progress := by
  obtain ⟨progress, held, command, begun, suits⟩ := inOrder.stories.exists_fits inOrder.tidy noted
  exact ⟨command, progress, held, begun, suits⟩

theorem mem_teardownOf {note : Note} (counts : note.ofTeardown = true) :
    note ∈ teardownOf story ↔ note ∈ story := by
  simp [teardownOf, counts]

/-- Nothing that belongs to a teardown happens twice in one story. -/
theorem countP_story_le_one (inOrder : InOrder heard run) (counted : Note → Bool)
    (inside : ∀ note, counted note = true → note.ofTeardown = true)
    (single : ∀ answer, (course answer ++ [expiry]).countP counted ≤ 1) :
    (run.story member).countP counted ≤ 1 := by
  have whole : (run.story member).countP counted =
      (teardownOf (run.story member)).countP counted := by
    rw [teardownOf, List.countP_filter]
    apply List.countP_congr
    intro note _
    constructor
    · intro marked
      simp [marked, inside note marked]
    · intro marked
      simp at marked
      exact marked.1
  rw [whole]
  by_cases empty : run.story member = []
  · rw [empty]
    exact Nat.zero_le 1
  · obtain ⟨note, noted⟩ := List.exists_mem_of_ne_nil _ empty
    obtain ⟨command, progress, _, _, suits⟩ := inOrder.suits noted
    obtain ⟨answer, beginning⟩ := suits.isPrefix
    exact Nat.le_trans (beginning.sublist.countP_le) (single answer)

/-- Whoever closes the client or reports has turned the session inactive before. -/
theorem turned_of_mem_teardownOf (suits : Suits session command story progress) {note : Note}
    (noted : note ∈ teardownOf story) : .turned ∈ story := by
  obtain ⟨answer, beginning⟩ := suits.isPrefix
  obtain ⟨first, rest, same⟩ := List.exists_cons_of_ne_nil (List.ne_nil_of_mem noted)
  rw [same] at beginning
  obtain rfl : first = .turned := (List.cons_prefix_cons.1 beginning).1
  rw [← mem_teardownOf rfl, same]
  exact List.mem_cons_self

/-- Only one operation turns the session inactive. -/
theorem InOrder.turner_unique (inOrder : InOrder heard run) {first second : Nat}
    (one : .turned ∈ run.story first) (other : .turned ∈ run.story second) : first = second := by
  have once : (run.log.countP fun entry => entry.2.isTurn) ≤ 1 := by
    rw [inOrder.turns]
    split <;> omega
  have same := Crew.eq_of_countP_le_one once (Crew.mem_story.1 one) rfl (Crew.mem_story.1 other) rfl
  exact Option.some.inj (Prod.mk.inj same).1

/-- What belongs to a teardown, and happens once in its course, happens at most once in a run. -/
theorem InOrder.countP_log_le_one (inOrder : InOrder heard run) (counted : Note → Bool)
    (inside : ∀ note, counted note = true → note.ofTeardown = true)
    (single : ∀ answer, (course answer ++ [expiry]).countP counted ≤ 1) :
    (run.log.countP fun entry => counted entry.2) ≤ 1 := by
  have turned : ∀ member note, (some member, note) ∈ run.log → counted note = true →
      .turned ∈ run.story member := by
    intro member note noted marked
    have noted := Crew.mem_story.2 noted
    obtain ⟨command, progress, _, _, suits⟩ := inOrder.suits noted
    exact turned_of_mem_teardownOf suits ((mem_teardownOf (inside note marked)).2 noted)
  apply Crew.countP_log_le_one counted
  · intro owner note noted _
    exact inOrder.owned owner note noted
  · intro member
    exact countP_story_le_one inOrder counted inside single
  · intro first second one other noted marked noted' marked'
    exact inOrder.turner_unique (turned first one noted marked) (turned second other noted' marked')

/-- An operation that has ended has gone the whole course of a teardown, or has had no part in one. -/
theorem Suits.whole {result : Result} (suits : Suits session command story (.ended result))
    (turned : .turned ∈ story) : ∃ answer,
      teardownOf story = course answer ∧ command = .close ∧
          result = .closed (!story.any Note.isFault) ∨
        teardownOf story = course answer ++ (if session.reports then [expiry] else []) ∧
          command ≠ .close := by
  rcases suits with ⟨plain, _⟩ | ⟨answer, own | ⟨whole, fault, rejected⟩⟩
  · rw [← mem_teardownOf rfl, plain] at turned
    cases turned
  · exact ⟨answer, .inl own⟩
  · refine ⟨answer, .inr ⟨whole, ?_⟩⟩
    rintro rfl
    cases rejected.1

theorem Suits.closing_of_turned {result : Result}
    (suits : Suits session command story (.ended result)) (turned : .turned ∈ story) :
    .asked (.call .close) ∈ story := by
  rw [← mem_teardownOf rfl]
  obtain ⟨answer, ⟨whole, _⟩ | ⟨whole, _⟩⟩ := suits.whole turned <;> rw [whole] <;> simp [course]

/-- How closing a session ends. -/
theorem Suits.closed {result : Result} (suits : Suits session .close story (.ended result)) :
    ∃ clean, result = .closed clean ∧ (clean = false ↔ .turned ∈ story ∧
      ∃ call answer, .answered call answer ∈ story ∧ answer.outcome.isOk = false) := by
  have faults : story.any Note.isFault = true ↔
      ∃ call answer, .answered call answer ∈ story ∧ answer.outcome.isOk = false := by
    rw [List.any_eq_true]
    constructor
    · rintro ⟨note, noted, failed⟩
      cases note with
      | answered call answer => exact ⟨call, answer, noted, by simpa [Note.isFault] using failed⟩
      | _ => cases failed
    · rintro ⟨call, answer, noted, failed⟩
      exact ⟨_, noted, by simp [Note.isFault, failed]⟩
  by_cases turned : .turned ∈ story
  · obtain ⟨answer, ⟨_, _, same⟩ | ⟨_, other⟩⟩ := suits.whole turned
    · refine ⟨_, same, ?_⟩
      rw [Bool.not_eq_false', faults]
      simp [turned]
    · exact absurd rfl other
  · rcases suits with ⟨_, same⟩ | ⟨answer, ⟨whole, _⟩ | ⟨_, fault, rejected⟩⟩
    · exact ⟨true, same rfl, by simp [turned]⟩
    · refine absurd ?_ turned
      rw [← mem_teardownOf rfl, whole]
      exact List.mem_cons_self
    · cases rejected.1

/-- Whether an operation that has ended has made a report. -/
theorem Suits.reported {result : Result} (suits : Suits session command story (.ended result)) :
    (∃ status reason, .asked (.report status reason) ∈ story) ↔
      session.reports = true ∧ .turned ∈ story ∧ command ≠ .close := by
  constructor
  · rintro ⟨status, reason, noted⟩
    have turned := turned_of_mem_teardownOf suits ((mem_teardownOf rfl).2 noted)
    rw [← mem_teardownOf rfl] at noted
    obtain ⟨answer, ⟨whole, _⟩ | ⟨whole, other⟩⟩ := suits.whole turned
    · rw [whole] at noted
      simp [course] at noted
    · rw [whole] at noted
      split at noted
      case isTrue heard => exact ⟨heard, turned, other⟩
      case isFalse => simp [course] at noted
  · rintro ⟨heard, turned, other⟩
    obtain ⟨answer, ⟨_, same, _⟩ | ⟨whole, _⟩⟩ := suits.whole turned
    · exact absurd same other
    · refine ⟨.disconnected, .expiredCredential, ?_⟩
      rw [← mem_teardownOf rfl, whole, if_pos heard]
      simp [expiry]

/-- A report comes after the client was closed. -/
theorem Suits.order {status : ConnectionStatus} {reason : StatusReason} {earlier later : List Note}
    (suits : Suits session command (earlier ++ .asked (.report status reason) :: later) progress) :
    status = .disconnected ∧ reason = .expiredCredential ∧
      ∃ answer, .answered .close answer ∈ earlier := by
  obtain ⟨answer, rest, whole⟩ := suits.isPrefix
  have same : teardownOf earlier ++ .asked (.report status reason) :: (teardownOf later ++ rest) =
      course answer ++ [expiry] := by
    rw [← whole, teardownOf_append, List.append_assoc]
    rfl
  -- A report is no part of the course, so it is what comes after the whole course.
  have apart : Note.asked (.report status reason) ∉ course answer := by simp [course]
  have last : teardownOf later ++ rest = [] := by
    refine (List.eq_nil_or_concat (teardownOf later ++ rest)).resolve_right ?_
    rintro ⟨middle, note, more⟩
    rw [more, List.concat_eq_append, ← List.cons_append, ← List.append_assoc] at same
    apply apart
    rw [← (List.append_inj' same rfl).1]
    simp
  rw [last] at same
  obtain ⟨before, report⟩ := List.append_inj' same rfl
  obtain ⟨rfl, rfl⟩ := Request.report.inj (Note.asked.inj (List.cons.inj report).1)
  refine ⟨rfl, rfl, answer, ?_⟩
  rw [← mem_teardownOf rfl, before]
  simp [course]

/-- The client is closed at most once. -/
theorem InOrder.closings (inOrder : InOrder heard run) :
    (run.log.countP fun entry => entry.2.isClosing) ≤ 1 :=
  inOrder.countP_log_le_one Note.isClosing (fun _ => Note.ofTeardown_of_isClosing)
    fun _ => Nat.le_refl 1

theorem InOrder.reportings (inOrder : InOrder heard run) :
    (run.log.countP fun entry => entry.2.isReport) ≤ 1 :=
  inOrder.countP_log_le_one Note.isReport (fun _ => Note.ofTeardown_of_isReport)
    fun _ => Nat.le_refl 1

theorem InOrder.closing_of_ended (inOrder : InOrder heard run) (ended : Ended run member)
    (turned : .turned ∈ run.story member) : .asked (.call .close) ∈ run.story member := by
  obtain ⟨result, held⟩ := ended
  obtain ⟨command, begun, suits⟩ := inOrder.stories member _ held
  exact suits.closing_of_turned turned

/-- When no operation is under way, the client has been closed as often as the session was turned
inactive. -/
theorem InOrder.whole (inOrder : InOrder heard run)
    (quiet : ∀ member, member < run.members.length → Ended run member) :
    (run.log.countP fun entry => entry.2.isClosing) = if run.state.active then 0 else 1 := by
  have turns := inOrder.turns
  split
  case isTrue active =>
    rw [if_pos active, List.countP_eq_zero] at turns
    rw [List.countP_eq_zero]
    rintro ⟨owner, note⟩ noted closing
    obtain ⟨member, rfl⟩ := Option.isSome_iff_exists.1 (inOrder.owned owner note noted)
    have noted := Crew.mem_story.2 noted
    obtain ⟨command, progress, _, _, suits⟩ := inOrder.suits noted
    have part := (mem_teardownOf (Note.ofTeardown_of_isClosing closing)).2 noted
    exact turns _ (Crew.mem_story.1 (turned_of_mem_teardownOf suits part)) rfl
  case isFalse inactive =>
    rw [if_neg inactive] at turns
    have happens : 0 < run.log.countP fun entry => entry.2.isTurn := by omega
    obtain ⟨⟨owner, note⟩, noted, turned⟩ := List.countP_pos_iff.1 happens
    obtain ⟨member, rfl⟩ := Option.isSome_iff_exists.1 (inOrder.owned owner note noted)
    obtain rfl : note = .turned := by cases note <;> first | rfl | cases turned
    have ended := quiet member (inOrder.tidy member .turned noted)
    have closing := inOrder.closing_of_ended ended (Crew.mem_story.2 noted)
    have once : 0 < run.log.countP fun entry => entry.2.isClosing :=
      List.countP_pos_iff.2 ⟨_, Crew.mem_story.1 closing, rfl⟩
    have := inOrder.closings
    omega

/-- Whoever turns the session inactive was asked to close it, or has met rejected credentials. -/
theorem InOrder.turner (inOrder : InOrder heard run) (turned : .turned ∈ run.story member) :
    .begun .close ∈ run.story member ∨ Rejected (run.story member) := by
  obtain ⟨command, progress, _, begun, suits⟩ := inOrder.suits turned
  rcases suits.cause_of_turned turned with rfl | ⟨fault, sends, rejects, call, answer, rest⟩
  · exact .inl ((begun _).2 rfl)
  · refine .inr ⟨command, call, answer, fault, (begun _).2 rfl, sends, rest.2.2, rest.1, rest.2.1, ?_⟩
    exact fault.isUnauthorized_iff.1 rejects

theorem InOrder.inactive_of_struck (inOrder : InOrder heard run) (ended : Ended run member)
    (cause : .begun .close ∈ run.story member ∨ Rejected (run.story member)) :
    run.state.active = false := by
  obtain ⟨result, held⟩ := ended
  refine (inOrder.struck member _ held cause).resolve_left ?_
  rintro ⟨op, running, _⟩
  cases running

/-- What a report says, and what has happened before it. -/
theorem InOrder.order {status : ConnectionStatus} {reason : StatusReason} {earlier later : List Note}
    (inOrder : InOrder heard run)
    (split : run.story member = earlier ++ .asked (.report status reason) :: later) :
    status = .disconnected ∧ reason = .expiredCredential ∧
      ∃ answer, .answered .close answer ∈ earlier := by
  have asked : .asked (.report status reason) ∈ run.story member := by simp [split]
  obtain ⟨command, progress, _, _, suits⟩ := inOrder.suits asked
  rw [split] at suits
  exact suits.order

theorem InOrder.tornDownOnce (inOrder : InOrder heard run) : TornDownOnce heard run where
  turns := inOrder.turns
  turner := fun _ => inOrder.turner
  struck := fun _ => inOrder.inactive_of_struck
  closings := inOrder.closings
  closer := by
    intro member asked
    obtain ⟨command, progress, _, _, suits⟩ := inOrder.suits asked
    exact turned_of_mem_teardownOf suits ((mem_teardownOf rfl).2 asked)
  closed := fun _ => inOrder.closing_of_ended
  whole := inOrder.whole
  answer := by
    intro member result held closes
    obtain ⟨command, begun, suits⟩ := inOrder.stories member _ held
    obtain rfl := (begun _).1 closes
    exact suits.closed
  reports := inOrder.reportings
  report := by
    intro member status reason asked
    obtain ⟨earlier, later, split⟩ := List.append_of_mem asked
    obtain ⟨same, same', _⟩ := inOrder.order split
    exact ⟨same, same'⟩
  order := fun _ _ _ _ _ split => (inOrder.order split).2.2
  reported := by
    rintro member ⟨result, held⟩
    obtain ⟨command, begun, suits⟩ := inOrder.stories member _ held
    rw [suits.reported, inOrder.reports, begun, ne_comm]

end

/-- However the operations on a session come in between each other, and whatever the client answers,
the session is torn down once, and does not become active again.  All operations can always be driven
to their end, so that a teardown is not left half done. -/
theorem tornDownOnce_run (identity : Identity) (reports : Bool) (receiveTimeout : Nat)
    (events : List Event) :
    TornDownOnce reports (run (fresh identity reports receiveTimeout) events) ∧
      (∀ more, (run (fresh identity reports receiveTimeout) (events ++ more)).state.active = true →
        (run (fresh identity reports receiveTimeout) events).state.active = true) ∧
      ∃ more, ∀ member,
        member < (run (fresh identity reports receiveTimeout) (events ++ more)).members.length →
          Ended (run (fresh identity reports receiveTimeout) (events ++ more)) member := by
  refine ⟨(inOrder_run identity reports receiveTimeout events).tornDownOnce, ?_, ?_⟩
  · intro more active
    rw [run_append] at active
    exact (evolves_onward _ more).active active
  · obtain ⟨more, ended⟩ := exists_all_ended (run (fresh identity reports receiveTimeout) events)
    refine ⟨more, ?_⟩
    rw [run_append]
    exact ended

end Session

end DeviceGateway
