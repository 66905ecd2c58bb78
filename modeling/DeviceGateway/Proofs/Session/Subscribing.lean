/-
# Subscriptions follow their plan

After every call the session, the callbacks of its client and the receive loops are what the calls so far
ask for, and every call was answered accordingly.  So it does not matter in which order calls about
different categories were made, nor whether one was made twice.
-/

import DeviceGateway.Proofs.Session.Stages

namespace DeviceGateway.Session

open Plan (LatestBind EndsInAdd)

variable {identity : Identity} {solo : Solo}

namespace Solo

/-- A session with its calls is what their plan says, and while a call is under way its position says how
far it has come. -/
inductive Follows (identity : Identity) (solo : Solo) : Prop
  | idle (free : solo.op? = none) (houses : Houses identity (.of solo.asked) none solo.session)
      (offers : Offers identity.toText (.of solo.asked) solo.callbacks)
      (answers : solo.answers = Plan.replies identity.toText {} solo.asked)
  | busy {before : List Ask} {ask : Ask} {op : Op} (under : solo.op? = some op)
      (asked : solo.asked = before ++ [ask])
      (stage : Stage identity (.of before) ask op solo.session solo.callbacks)
      (answers : solo.answers = Plan.replies identity.toText {} before)

theorem follows_fresh (identity : Identity) (reports : Bool) (receiveTimeout : Nat) :
    Follows identity { session := fresh identity reports receiveTimeout } := by
  refine .idle rfl ?_ (fun _ => rfl) rfl
  exact ⟨rfl, rfl, fun _ => rfl, nofun, fun _ _ found => by simp [fresh] at found⟩

/-- Where a call asks for nothing, it is answered well. -/
theorem reply_of_idle {ask : Ask} (plan : Plan) (target : String) (idle : ask.command? = none) :
    plan.next ask = plan ∧ plan.reply target ask = .done (.ok ()) := by
  cases ask with
  | bind listener | close => cases idle
  | subscribe category add =>
    have idle : category.command? add = none := idle
    exact ⟨plan.next_of_idle idle, by simp [Plan.reply, idle]⟩

theorem follows_act (follows : Follows identity solo) (turn : Turn) : Follows identity (solo.act turn) := by
  cases follows with
  | idle free houses offers answers =>
    cases turn with
    | asks ask =>
      cases asks : ask.command? with
      | some command =>
        simp only [act, free, asks]
        exact .busy rfl rfl (.begins asks houses offers) answers
      | none =>
        obtain ⟨same, reply⟩ := reply_of_idle (.of solo.asked) identity.toText asks
        simp only [act, free, asks]
        refine .idle rfl ?_ ?_ ?_
        · rwa [Plan.of_append_singleton, same]
        · rwa [Plan.of_append_singleton, same]
        · rw [Plan.replies_append_singleton, ← Plan.of, reply, answers]
    | goes =>
      simp only [act, free]
      exact .idle free houses offers answers
    | loops number event => exact .idle free (houses.loops number event) offers answers
  | @busy before ask op under asked stage answers =>
    cases turn with
    | asks ask' =>
      simp only [act, under]
      exact .busy under asked stage answers
    | loops number event => exact .busy under asked (stage.loops number event) answers
    | goes =>
      have leads := stage.moves Plan.listener?_of_closed
      simp only [act, under]
      generalize solo.session.moveOf op = move at leads ⊢
      cases move with
      | go session later => exact .busy rfl asked leads answers
      | done session result =>
        obtain ⟨houses, offers, rfl⟩ := leads
        rw [← Plan.of_append_singleton, ← asked] at houses offers
        refine .idle rfl houses offers ?_
        simp only [follow, asked, answers, Plan.replies_append_singleton]
        rfl

theorem follows_onward (follows : Follows identity solo) (turns : List Turn) :
    Follows identity (solo.onward turns) := by
  induction turns generalizing solo with
  | nil => exact follows
  | cons turn turns ih => exact ih (follows_act follows turn)

/-- Between two calls, there is what was planned. -/
theorem Follows.between (follows : Follows identity solo) (free : solo.op? = none) :
    Houses identity (.of solo.asked) none solo.session ∧
      Offers identity.toText (.of solo.asked) solo.callbacks ∧
        solo.answers = Plan.replies identity.toText {} solo.asked := by
  cases follows with
  | idle _ houses offers answers => exact ⟨houses, offers, answers⟩
  | busy under =>
    rw [free] at under
    cases under

/-! ## Receive loops -/

/-- The inbox with a number is open and receives messages for a listener. -/
def Receives (solo : Solo) (number : Nat) (listener : Listener) : Prop :=
  ∃ inbox, solo.session.inboxes[number]? = some inbox ∧ inbox.cancelled = false ∧
    inbox.isListening = true ∧ inbox.listener = listener

theorem receives_iff {plan : Plan} (houses : Houses identity plan none solo.session) (number : Nat)
    (listener : Listener) : solo.Receives number listener ↔
      solo.session.bound = some number ∧ plan.listener? = some listener ∧ plan.listens = true := by
  constructor
  · rintro ⟨inbox, found, opened, listens, rfl⟩
    have bound : solo.session.bound = some number := by
      by_contra unbound
      have shut := houses.shut found unbound
      rw [opened] at shut
      cases shut
    cases planned : plan.listener? with
    | none =>
      rw [houses.unbound planned] at bound
      cases bound
    | some own =>
      have serves := houses.serves planned bound found
      exact ⟨bound, by rw [serves.listener], serves.listens.symm.trans listens⟩
  · rintro ⟨bound, planned, listens⟩
    obtain ⟨inbox, found, serves⟩ := houses.exists_serves planned bound
    exact ⟨inbox, found, serves.opened, serves.listens.trans listens, serves.listener⟩

theorem exists_receives_iff {plan : Plan} (houses : Houses identity plan none solo.session)
    (listener : Listener) : (∃ number, solo.Receives number listener) ↔
      plan.listener? = some listener ∧ plan.listens = true := by
  constructor
  · rintro ⟨number, receives⟩
    exact ((receives_iff houses number listener).1 receives).2
  · rintro ⟨planned, listens⟩
    obtain ⟨number, _, bound, _⟩ := houses.bound listener planned
    exact ⟨number, (receives_iff houses number listener).2 ⟨bound, planned, listens⟩⟩

/-! ## Every call comes to its end -/

/-- A bound on the moves that the call under way still makes. -/
def toGo (solo : Solo) : Nat := solo.op?.elim 0 Op.toGo

def Turn.isMove : Turn → Bool
  | goes => true
  | _ => false

def Turn.isAsk : Turn → Bool
  | asks _ => true
  | _ => false

theorem op?_of_toGo (ended : solo.toGo = 0) : solo.op? = none := by
  cases under : solo.op? with
  | none => rfl
  | some op =>
    rw [toGo, under] at ended
    have positive : 0 < op.toGo := by
      cases op with
      | onInbox purpose number inner => exact Nat.add_pos_right _ inner.toGo_pos
      | _ => exact Nat.succ_pos _
    exact absurd ended (Nat.ne_of_gt positive)

/-- The moves of a call under way are moves of its operation. -/
theorem exists_moves_of_stage {plan : Plan} {ask : Ask} {op : Op} {session : Session}
    {callbacks : Callbacks} (stage : Stage identity plan ask op session callbacks) :
    ∃ told, Moves session op told (session.moveOf op) := by
  have admits : ∀ call, op.request? = some (.call call) → call.admits (.done (.ok ())) = true := by
    have inboxes : ∀ purpose number inner call,
        (Op.onInbox purpose number inner).request? = some (.call call) →
          call.admits (.done (.ok ())) = true := by
      intro purpose number inner call waits
      obtain ⟨call', asked, same⟩ := Option.map_eq_some_iff.1 waits
      obtain ⟨kind, callback, rfl⟩ := Inbox.Op.awaits_eq_some asked
      cases same
      rfl
    cases stage with
    | serves | leaves => exact inboxes _ _ _
    | closes =>
      rintro call ⟨⟩
      rfl
    | _ =>
      intro call waits
      cases waits
  unfold moveOf
  split
  case h_1 free => exact ⟨_, .step free⟩
  case h_2 call waits => exact ⟨_, .answer "" waits (admits call waits)⟩
  case h_3 waits => exact ⟨_, .hearing waits⟩

theorem toGo_act (follows : Follows identity solo) {turn : Turn} (quiet : turn.isAsk = false) :
    (solo.act turn).toGo ≤ solo.toGo - (if turn.isMove then 1 else 0) := by
  cases turn with
  | asks ask => cases quiet
  | loops number event => exact Nat.le_refl _
  | goes =>
    cases follows with
    | idle free => simp [act, toGo, free]
    | busy under asked stage =>
      obtain ⟨told, moved⟩ := exists_moves_of_stage stage
      have shorter := shortens_of_moves moved
      simp only [act, under, toGo]
      generalize solo.session.moveOf _ = move at shorter ⊢
      cases move with
      | go session later => exact Nat.le_sub_one_of_lt shorter
      | done session result => exact Nat.zero_le _

theorem toGo_onward (follows : Follows identity solo) {turns : List Turn}
    (quiet : ∀ turn ∈ turns, turn.isAsk = false) :
    (solo.onward turns).toGo ≤ solo.toGo - turns.countP Turn.isMove := by
  induction turns generalizing solo with
  | nil => exact Nat.le_refl _
  | cons turn turns ih =>
    have first := toGo_act follows (quiet turn List.mem_cons_self)
    have later := ih (follows_act follows turn) fun other member =>
      quiet other (List.mem_cons_of_mem _ member)
    rw [List.countP_cons]
    simp only [onward, List.foldl_cons] at later ⊢
    omega

/-! ## What can be seen between two calls -/

/-- Two sessions cannot be told apart by whether they are active, by the callbacks of their clients or by the
messages that they receive. -/
structure LooksLike (one other : Solo) : Prop where
  active : one.session.active = other.session.active
  callbacks : one.callbacks = other.callbacks
  receives : ∀ listener, (∃ number, one.Receives number listener) ↔
    ∃ number, other.Receives number listener

end Solo

/-- How a session and its client stand between two calls, by the calls that were made. -/
structure FollowsCalls (identity : Identity) (solo : Solo) : Prop where
  active : solo.session.active = true ↔ .close ∉ solo.asked
  /-- The client has a callback exactly if the last call about it since the latest binding was an addition,
  and it is one for the listener that was bound. -/
  callbacks : ∀ kind callback, solo.callbacks kind = some callback ↔
    ∃ listener since, LatestBind solo.asked listener since ∧ EndsInAdd kind since ∧
      callback = .toListener listener identity.toText
  /-- Messages are received exactly if that was asked for since the latest binding, and for the listener
  that was bound. -/
  receives : ∀ listener, (∃ number, solo.Receives number listener) ↔
    ∃ since, LatestBind solo.asked listener since ∧ .subscribe .messages true ∈ since
  single : ∀ number other listener listener', solo.Receives number listener →
    solo.Receives other listener' → number = other ∧ listener = listener'
  answers : solo.answers.length = solo.asked.length ∧ ∀ before ask after,
    solo.asked = before ++ ask :: after →
      solo.answers[before.length]? = some (ask.answer identity.toText before)
  /-- Where there is nothing to do, nothing changes. -/
  nothing : ∀ category add, Category.command? category add = none →
    solo.act (.asks (.subscribe category add)) =
      { solo with
        asked := solo.asked ++ [.subscribe category add]
        answers := solo.answers ++ [.done (.ok ())] }

theorem Solo.Follows.followsCalls (follows : solo.Follows identity) (between : solo.op? = none) :
    FollowsCalls identity solo := by
  obtain ⟨houses, offers, answers⟩ := follows.between between
  have tracks := Plan.tracks_of solo.asked
  constructor
  case active => rw [houses.active, tracks.active]
  case callbacks =>
    intro kind callback
    rw [offers kind, Plan.callback?]
    constructor
    · intro has
      obtain ⟨wanted, has⟩ := Option.ite_none_right_eq_some.1 has
      obtain ⟨listener, planned, rfl⟩ := Option.map_eq_some_iff.1 has
      obtain ⟨since, bind⟩ := (tracks.bound listener).1 planned
      exact ⟨listener, since, bind, (tracks.wants listener since bind kind).1 wanted, rfl⟩
    · rintro ⟨listener, since, bind, added, rfl⟩
      have planned := (tracks.bound listener).2 ⟨since, bind⟩
      have wanted := (tracks.wants listener since bind kind).2 added
      simp [planned, wanted]
  case receives =>
    intro listener
    rw [Solo.exists_receives_iff houses]
    constructor
    · rintro ⟨planned, listens⟩
      obtain ⟨since, bind⟩ := (tracks.bound listener).1 planned
      exact ⟨since, bind, (tracks.listens listener since bind).1 listens⟩
    · rintro ⟨since, bind, asked⟩
      exact ⟨(tracks.bound listener).2 ⟨since, bind⟩, (tracks.listens listener since bind).2 asked⟩
  case single =>
    intro number other listener listener' receives receives'
    obtain ⟨bound, planned, _⟩ := (Solo.receives_iff houses number listener).1 receives
    obtain ⟨bound', planned', _⟩ := (Solo.receives_iff houses other listener').1 receives'
    exact ⟨Option.some.inj (bound.symm.trans bound'), Option.some.inj (planned.symm.trans planned')⟩
  case answers =>
    rw [answers]
    refine ⟨Plan.length_replies .., ?_⟩
    intro before ask after asked
    rw [asked, Plan.getElem?_replies, ← Plan.reply_of]
    rfl
  case nothing =>
    intro category add idle
    have idle : (Ask.subscribe category add).command? = none := idle
    simp [Solo.act, between, idle]

/-- Sessions with the same plan look alike between calls. -/
theorem Solo.Follows.looksLike {other : Solo} (follows : solo.Follows identity)
    (follows' : other.Follows identity) (between : solo.op? = none) (between' : other.op? = none)
    (same : Plan.of solo.asked = Plan.of other.asked) : solo.LooksLike other := by
  obtain ⟨houses, offers, _⟩ := follows.between between
  obtain ⟨houses', offers', _⟩ := follows'.between between'
  rw [← same] at houses' offers'
  constructor
  case active => exact houses.active.trans houses'.active.symm
  case callbacks =>
    funext kind
    exact (offers kind).trans (offers' kind).symm
  case receives =>
    intro listener
    rw [Solo.exists_receives_iff houses, Solo.exists_receives_iff houses']

/-- How the calls of an owner about subscriptions turn out, where `start` is the session before them. -/
structure SubscribesAsAsked (identity : Identity) (start : Session) (solo : Solo) : Prop where
  /-- No call goes on for ever. -/
  ends : ∀ turns : List Solo.Turn, (∀ turn ∈ turns, turn.isAsk = false) →
    solo.toGo ≤ turns.countP Solo.Turn.isMove → (solo.onward turns).op? = none
  between : solo.op? = none → FollowsCalls identity solo
  /-- Calls about different categories commute. -/
  commutes : ∀ turns before after category other add add', solo.op? = none →
    (start.solo turns).op? = none → category ≠ other →
      solo.asked = before ++ .subscribe category add :: .subscribe other add' :: after →
        (start.solo turns).asked = before ++ .subscribe other add' :: .subscribe category add :: after →
          solo.LooksLike (start.solo turns)
  /-- A call that is made again changes nothing. -/
  repeats : ∀ turns before after category add, solo.op? = none → (start.solo turns).op? = none →
    solo.asked = before ++ .subscribe category add :: .subscribe category add :: after →
      (start.solo turns).asked = before ++ .subscribe category add :: after →
        solo.LooksLike (start.solo turns)

/-- Whatever an owner asks for, one call after the other, the session, the callbacks of its client and its
receive loops are what the calls say. -/
theorem subscribesAsAsked_solo (identity : Identity) (reports : Bool) (receiveTimeout : Nat)
    (turns : List Solo.Turn) :
    SubscribesAsAsked identity (fresh identity reports receiveTimeout)
      ((fresh identity reports receiveTimeout).solo turns) := by
  have all : ∀ turns, ((fresh identity reports receiveTimeout).solo turns).Follows identity :=
    Solo.follows_onward (Solo.follows_fresh identity reports receiveTimeout)
  constructor
  case ends =>
    intro more quiet enough
    apply Solo.op?_of_toGo
    have fewer := Solo.toGo_onward (all turns) quiet
    omega
  case between => exact (all turns).followsCalls
  case commutes =>
    intro turns' before after category other add add' between between' apart asked asked'
    refine (all turns).looksLike (all turns') between between' ?_
    rw [asked, asked', Plan.of_comm before after apart]
  case repeats =>
    intro turns' before after category add between between' asked asked'
    refine (all turns).looksLike (all turns') between between' ?_
    rw [asked, asked', Plan.of_twice]

end DeviceGateway.Session
