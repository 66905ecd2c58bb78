/-
# Patches and who receives them

A patch to the desired section goes to the callback that is installed when it arrives, and to nobody if
there is none; a payload that is no object is reported as a fault.  The callback is handed the patch by a
job of its own, so that other things may happen before; it is handed each patch once, and the patch is what
the publication said.  A session leaves a callback that hands the patch to its listener as a message.

The story of a job is told from the publication that led to it on, as for method requests.
-/

import DeviceGateway.Proofs.Message.Patch
import DeviceGateway.Proofs.Uplink.Run
import DeviceGateway.Session.Inbox

namespace DeviceGateway

namespace Uplink

namespace Handover

/-- What can be seen of publications and of the patches in them. -/
inductive Note where
  /-- A publication arrived for a destination, while the client had a callback for patches; it may be
  reported as a fault. -/
  | arrived (topic : String) (payload : Bytes) (destination : Option Destination)
      (callback : Option Callback) (fault : Option Fault)
  /-- A listener has received a message. -/
  | received (listener : Listener) (message : Message)
  /-- Somebody outside of a session was handed a patch. -/
  | handed (number : Nat) (patch : PropertySet)

end Handover

/-- A client and its calls, with the jobs that hand patches to callbacks. -/
abbrev Handover := Crew Run Job Unit Handover.Note

namespace Handover

/-- What happens to a client and its patches. -/
inductive Event where
  /-- Something happens to the client and its calls. -/
  | runs (event : Uplink.Event)
  /-- A job hands its patch to the callback. -/
  | works (member : Nat)

/-- What can be seen as a publication arrives. -/
def arrival (uplink : Uplink) (topic : String) (payload : Bytes) : Note :=
  .arrived topic payload (uplink.router.route topic) uplink.onDesired
    (match (uplink.accept topic payload).2 with
      | .ok _ => none
      | .error fault => some fault)

/-- What a callback does with a patch. -/
def handing : Callback → PropertySet → Note
  | .toListener listener _, patch => .received listener patch.toMessage
  | .external number, patch => .handed number patch

def onWork (run : Run) : Job → Option (Move Run Job Unit × List Note)
  | .handing callback patch => some (.done run (), [handing callback patch])
  | _ => none

/-- A client and its patches after one more event. -/
def act (handover : Handover) : Event → Handover
  | .runs (.arrives topic payload) =>
    let after := handover.drift (Uplink.act handover.state (.arrives topic payload)) []
    let note := arrival handover.state.state topic payload
    match (handover.state.state.accept topic payload).2 with
    | .ok (some (.handing callback patch)) => after.enter (.handing callback patch) [note]
    | _ => after.drift after.state [note]
  | .runs event => handover.drift (Uplink.act handover.state event) []
  | .works member => handover.advance member (onWork handover.state)

def onward (handover : Handover) (events : List Event) : Handover := events.foldl act handover

end Handover

/-- A client through a list of events, with its patches. -/
def handover (uplink : Uplink) (events : List Handover.Event) : Handover :=
  Handover.onward { state := { state := uplink } } events

namespace Handover

/-! ## The stories of patches -/

/-- The story of a job begins with the publication that led to it. -/
inductive Tells : List Note → Progress Job Unit → Prop
  | waits {topic : String} {payload : Bytes} {patch : PropertySet} (callback : Callback)
      (patched : patchOf topic payload = .ok patch) :
      Tells [.arrived topic payload (some .desiredPatches) (some callback) none]
        (.running (.handing callback patch))
  | handed {topic : String} {payload : Bytes} {patch : PropertySet} (callback : Callback)
      (patched : patchOf topic payload = .ok patch) :
      Tells [.arrived topic payload (some .desiredPatches) (some callback) none, handing callback patch]
        (.ended ())

/-- Why a publication for the patches led to no job. -/
inductive Drops (topic : String) (payload : Bytes) : Option Callback → Option Fault → Prop
  | refused {fault : Fault} (callback : Option Callback)
      (unread : patchOf topic payload = .error fault) : Drops topic payload callback (some fault)
  /-- There is no callback. -/
  | nobody {patch : PropertySet} (patched : patchOf topic payload = .ok patch) :
      Drops topic payload none none

/-- A publication leads to handing over a patch if there is a callback for it. -/
theorem accept_eq_handing {uplink : Uplink} {topic : String} {payload : Bytes} {callback : Callback}
    {patch : PropertySet}
    (accepted : (uplink.accept topic payload).2 = .ok (some (.handing callback patch))) :
    uplink.router.route topic = some .desiredPatches ∧ uplink.onDesired = some callback ∧
      patchOf topic payload = .ok patch := by
  unfold accept at accepted
  split at accepted
  case h_2 => cases accepted
  case h_1 destination routed =>
    cases destination with
    | desiredPatches =>
      simp only [acceptFor] at accepted
      split at accepted
      case h_1 found patched =>
        obtain ⟨own, installed, same⟩ := Option.map_eq_some_iff.1 (Except.ok.inj accepted)
        obtain ⟨rfl, rfl⟩ := Job.handing.inj same
        exact ⟨routed, installed, patched⟩
      case h_2 => cases accepted
    | methodRequests =>
      simp only [acceptFor] at accepted
      split at accepted
      case h_1 =>
        have same := Option.some.inj (Except.ok.inj accepted)
        unfold methodJob at same
        split at same <;> cases same
      case h_2 => cases accepted
    | twinResponses | deviceMessages =>
      simp only [acceptFor] at accepted
      split at accepted <;> cases accepted

theorem tells_of_accept {uplink : Uplink} {topic : String} {payload : Bytes} {callback : Callback}
    {patch : PropertySet}
    (accepted : (uplink.accept topic payload).2 = .ok (some (.handing callback patch))) :
    Tells [arrival uplink topic payload] (.running (.handing callback patch)) := by
  obtain ⟨routed, installed, patched⟩ := accept_eq_handing accepted
  rw [arrival, accepted, routed, installed]
  exact .waits callback patched

/-- Any other publication for the patches is dropped. -/
theorem drops_of_accept {uplink : Uplink} {topic : String} {payload : Bytes}
    (routed : uplink.router.route topic = some .desiredPatches)
    (idle : ∀ callback patch, (uplink.accept topic payload).2 ≠ .ok (some (.handing callback patch))) :
    ∃ fault, arrival uplink topic payload =
        .arrived topic payload (some .desiredPatches) uplink.onDesired fault ∧
      Drops topic payload uplink.onDesired fault := by
  have accepted : (uplink.accept topic payload).2 =
      (patchOf topic payload).map fun patch => uplink.onDesired.map (Job.handing · patch) := by
    simp only [accept, routed, acceptFor]
    cases patchOf topic payload <;> rfl
  rw [arrival, routed]
  rw [accepted] at idle ⊢
  cases patched : patchOf topic payload with
  | error fault => exact ⟨some fault, rfl, .refused _ patched⟩
  | ok patch =>
    cases installed : uplink.onDesired with
    | none => exact ⟨none, rfl, .nobody patched⟩
    | some callback =>
      refine absurd ?_ (idle callback patch)
      rw [patched, installed]
      rfl

/-! ## What every event keeps -/

/-- The publication that an entry is about. -/
def Note.arrival? : Note → Option (String × Bytes)
  | arrived topic payload _ _ _ => some (topic, payload)
  | _ => none

/-- The publication that an event brings. -/
def Event.arrival? : Event → Option (String × Bytes)
  | runs (.arrives topic payload) => some (topic, payload)
  | _ => none

/-- Every job has its story, and outside of jobs there are only publications that led to none. -/
structure Minds (handover : Handover) : Prop where
  tidy : handover.Tidy
  tells : handover.Keeps fun _ => Tells
  dropped : ∀ topic payload callback fault,
    (none, .arrived topic payload (some .desiredPatches) callback fault) ∈ handover.log →
      Drops topic payload callback fault
  silent : ∀ note : Note, (none, note) ∈ handover.log → note.arrival?.isSome

variable {handover : Handover}

theorem minds_begin (run : Run) : Minds { state := run } := by
  constructor
  case tidy => exact fun _ _ => nofun
  case tells => exact fun _ _ => nofun
  case dropped => exact fun _ _ _ _ => nofun
  case silent => exact fun _ => nofun

theorem Minds.drift (minds : Minds handover) (run : Run) : Minds (handover.drift run []) := by
  constructor
  case tidy => exact Crew.tidy_drift minds.tidy run
  case tells => exact Crew.keeps_drift minds.tells fun _ _ fits => fits
  case dropped => simpa [Crew.drift] using minds.dropped
  case silent => simpa [Crew.drift] using minds.silent

theorem Minds.enter (minds : Minds handover) {job : Job} {note : Note}
    (tells : Tells [note] (.running job)) : Minds (handover.enter job [note]) := by
  constructor
  case tidy => exact Crew.tidy_enter minds.tidy job
  case tells => exact Crew.keeps_enter minds.tidy minds.tells tells
  case dropped => simpa [Crew.enter] using minds.dropped
  case silent => simpa [Crew.enter] using minds.silent

theorem Minds.arrives (minds : Minds handover) (uplink : Uplink) (topic : String) (payload : Bytes)
    (run : Run)
    (idle : ∀ callback patch, (uplink.accept topic payload).2 ≠ .ok (some (.handing callback patch))) :
    Minds (handover.drift run [arrival uplink topic payload]) := by
  constructor
  case tidy => exact Crew.tidy_drift minds.tidy run
  case tells => exact Crew.keeps_drift minds.tells fun _ _ fits => fits
  case dropped =>
    intro topic' payload' callback fault member
    rcases (Crew.mem_log_drift run).1 member with old | ⟨_, new⟩
    · exact minds.dropped topic' payload' callback fault old
    · have same := List.mem_singleton.1 new
      have routed : uplink.router.route topic = some .desiredPatches := by
        simp only [arrival, Note.arrived.injEq] at same
        exact same.2.2.1.symm
      obtain ⟨fault', noted, drops⟩ := drops_of_accept routed idle
      obtain ⟨rfl, rfl, _, rfl, rfl⟩ := Note.arrived.inj (same.trans noted)
      exact drops
  case silent =>
    intro note member
    rcases (Crew.mem_log_drift run).1 member with old | ⟨_, new⟩
    · exact minds.silent note old
    · obtain rfl := List.mem_singleton.1 new
      rfl

/-- A job that hands its patch over is done. -/
theorem Minds.works (minds : Minds handover) (member : Nat) :
    Minds (handover.advance member (onWork handover.state)) := by
  apply Crew.advance_induction minds
  intro job move notes held allowed
  constructor
  case tidy => exact Crew.tidy_follow held minds.tidy
  case tells =>
    refine Crew.keeps_follow held minds.tells (fun _ _ fits => fits) fun tells => ?_
    generalize handover.story member = story at tells ⊢
    cases tells with
    | waits callback patched =>
      obtain ⟨rfl, rfl⟩ := Prod.mk.inj (Option.some.inj allowed)
      exact .handed callback patched
  case dropped => simpa [Crew.follow] using minds.dropped
  case silent => simpa [Crew.follow] using minds.silent

theorem minds_act (minds : Minds handover) (event : Event) : Minds (act handover event) := by
  cases event with
  | works member => exact minds.works member
  | runs event =>
    cases event with
    | arrives topic payload =>
      have after := minds.drift (Uplink.act handover.state (.arrives topic payload))
      simp only [act]
      split
      case h_1 callback patch accepted => exact after.enter (tells_of_accept accepted)
      case h_2 idle => exact after.arrives handover.state.state topic payload _ idle
    | _ => exact minds.drift _

theorem minds_onward (minds : Minds handover) (events : List Event) : Minds (onward handover events) := by
  induction events generalizing handover with
  | nil => exact minds
  | cons event events ih => exact ih (minds_act minds event)

/-! ## Each publication once -/

/-- The publications that have arrived, from the first on. -/
def arrivals (handover : Handover) : List (String × Bytes) :=
  handover.log.filterMap fun entry => entry.2.arrival?

/-- A publication is noted once, with the callback that the client has as it arrives. -/
theorem log_arrives (handover : Handover) (topic : String) (payload : Bytes) : ∃ owner,
    (act handover (.runs (.arrives topic payload))).log =
      handover.log ++ [(owner, arrival handover.state.state topic payload)] := by
  simp only [act]
  split
  case h_1 => exact ⟨some handover.members.length, by simp [Crew.enter, Crew.drift]⟩
  case h_2 => exact ⟨none, by simp [Crew.drift]⟩

theorem arrivals_act (handover : Handover) (event : Event) :
    arrivals (act handover event) = arrivals handover ++ event.arrival?.toList := by
  cases event with
  | works member =>
    refine @Crew.advance_induction _ _ _ _ handover member
      (arrivals · = arrivals handover ++ []) (onWork handover.state) (List.append_nil _).symm ?_
    intro job move notes _ allowed
    cases job with
    | handing callback patch =>
      obtain ⟨_, rfl⟩ := Prod.mk.inj (Option.some.inj allowed)
      cases callback <;> simp [arrivals, Crew.follow, handing, Note.arrival?]
    | running | responding => cases allowed
  | runs event =>
    cases event with
    | arrives topic payload =>
      obtain ⟨owner, log⟩ := log_arrives handover topic payload
      rw [arrivals, log, List.filterMap_append]
      rfl
    | _ => simp [arrivals, act, Crew.drift, Event.arrival?]

theorem arrivals_onward (handover : Handover) (events : List Event) :
    arrivals (onward handover events) = arrivals handover ++ events.filterMap Event.arrival? :=
  Crew.filterMap_log_foldl arrivals_act handover events

/-! ## Patches received -/

/-- What is noted of a job once it is over, and not before. -/
def atEnd (note : Note) : Progress Job Unit → List Note
  | .running _ => []
  | .ended _ => [note]

/-- A job has one publication in its story, and hands over the patch in it. -/
theorem Tells.story {story : List Note} {progress : Progress Job Unit} (tells : Tells story progress)
    {topic : String} {payload : Bytes} {callback : Option Callback} {fault : Option Fault}
    (member : .arrived topic payload (some .desiredPatches) callback fault ∈ story) :
    fault = none ∧ ∃ own patch, callback = some own ∧ patchOf topic payload = .ok patch ∧
      story = .arrived topic payload (some .desiredPatches) callback none ::
        atEnd (handing own patch) progress := by
  cases tells with
  | waits own patched =>
    obtain ⟨rfl, rfl, _, rfl, rfl⟩ := Note.arrived.inj (List.mem_singleton.1 member)
    exact ⟨rfl, own, _, rfl, patched, rfl⟩
  | handed own patched =>
    rcases List.mem_cons.1 member with same | later
    · obtain ⟨rfl, rfl, _, rfl, rfl⟩ := Note.arrived.inj same
      exact ⟨rfl, own, _, rfl, patched, rfl⟩
    · cases own <;> cases List.mem_singleton.1 later

/-- What a listener has received was in a publication for it. -/
theorem Tells.of_received {story : List Note} {progress : Progress Job Unit}
    (tells : Tells story progress) {listener : Listener} {message : Message}
    (member : .received listener message ∈ story) : ∃ topic payload target patch,
      .arrived topic payload (some .desiredPatches) (some (.toListener listener target)) none ∈ story ∧
        patchOf topic payload = .ok patch := by
  cases tells with
  | waits own patched => cases List.mem_singleton.1 member
  | handed own patched =>
    rcases List.mem_cons.1 member with same | later
    · cases same
    · cases own with
      | toListener other target =>
        obtain ⟨rfl, rfl⟩ := Note.received.inj (List.mem_singleton.1 later)
        exact ⟨_, _, target, _, List.mem_cons_self, patched⟩
      | external number => cases List.mem_singleton.1 later

/-- What becomes of the patches that a client was sent. -/
structure HandsEach (handover : Handover) (published : List (String × Bytes)) : Prop where
  arrived : arrivals handover = published
  /-- What arrives next is met by the callback that is there now. -/
  present : ∀ topic payload, ∃ owner fault,
    (act handover (.runs (.arrives topic payload))).log = handover.log ++
      [(owner, .arrived topic payload (handover.state.state.router.route topic)
        handover.state.state.onDesired fault)]
  /-- A session that is to receive patches leaves a callback to its listener. -/
  installs : ∀ inbox : Inbox, inbox.cancelled = false → ∃ op call,
    inbox.step (.install .desired) = .go inbox op ∧ op.awaits = some call ∧
      (handover.state.state.start call).state.onDesired =
        some (.toListener inbox.listener inbox.target)
  /-- The listener receives an object in a message, once when the job of the publication ends and not
  before. -/
  received : ∀ owner topic payload listener target fault object,
    (owner, .arrived topic payload (some .desiredPatches) (some (.toListener listener target)) fault) ∈
        handover.log → Json.Value.read? payload = some (.ofObject object) →
      fault = none ∧ ∃ member progress message, owner = some member ∧
        handover.members[member]? = some progress ∧
          handover.story member = .arrived topic payload (some .desiredPatches)
              (some (.toListener listener target)) none :: atEnd (.received listener message) progress ∧
            ((Json.Value.ofObject object).OnlyIntegers →
              PropertySet.Carries object (Topic.Hub.parseDesiredVersion? topic) message)
  /-- Anything else is reported as a fault and leads to no job. -/
  refused : ∀ owner topic payload callback fault,
    (owner, .arrived topic payload (some .desiredPatches) callback fault) ∈ handover.log →
      (∀ object, Json.Value.read? payload ≠ some (.ofObject object)) →
        owner = none ∧ ∃ reason, fault = some (.invalidMessageFormat reason)
  /-- Without a callback an object is dropped, which is no fault. -/
  dropped : ∀ owner topic payload fault object,
    (owner, .arrived topic payload (some .desiredPatches) none fault) ∈ handover.log →
      Json.Value.read? payload = some (.ofObject object) → owner = none ∧ fault = none
  /-- Nothing is received but what jobs hand over, which were led to by an object for this listener. -/
  only : ∀ owner listener message, (owner, .received listener message) ∈ handover.log →
    ∃ member topic payload target object, owner = some member ∧
      (some member, .arrived topic payload (some .desiredPatches)
          (some (.toListener listener target)) none) ∈ handover.log ∧
        Json.Value.read? payload = some (.ofObject object)
  /-- A job ends when it is let work. -/
  works : ∀ (member : Nat) job, handover.members[member]? = some (.running job) →
    (act handover (.works member)).members[member]? = some (.ended ())

theorem Minds.exists_tells (minds : Minds handover) {member : Nat} {note : Note}
    (told : (some member, note) ∈ handover.log) : ∃ progress, handover.members[member]? = some progress ∧
      note ∈ handover.story member ∧ Tells (handover.story member) progress := by
  have inStory := Crew.mem_story.2 told
  obtain ⟨progress, held, tells⟩ := minds.tells.exists_fits minds.tidy inStory
  exact ⟨progress, held, inStory, tells⟩

/-- A payload that is a patch is an object. -/
theorem exists_object {topic : String} {payload : Bytes} {patch : PropertySet}
    (patched : patchOf topic payload = .ok patch) :
    ∃ object, Json.Value.read? payload = some (.ofObject object) := by
  by_contra none
  rw [patchOf_eq_error (not_exists.1 none)] at patched
  cases patched

theorem Minds.handsEach (minds : Minds handover) : HandsEach handover (arrivals handover) := by
  constructor
  case arrived => rfl
  case present =>
    intro topic payload
    obtain ⟨owner, log⟩ := log_arrives handover topic payload
    exact ⟨owner, _, log⟩
  case installs =>
    intro inbox opened
    exact ⟨.installing .desired inbox.callback, .setCallback .desired (some inbox.callback),
      by simp [Inbox.step, opened], rfl, rfl⟩
  case received =>
    intro owner topic payload listener target fault object member read
    obtain ⟨patch, patched, carries⟩ := exists_patchOf topic read
    cases owner with
    | none =>
      cases minds.dropped _ _ _ _ member with
      | refused _ unread => cases unread.symm.trans patched
    | some number =>
      obtain ⟨progress, held, inStory, tells⟩ := minds.exists_tells member
      obtain ⟨rfl, own, found, same, patched', story⟩ := tells.story inStory
      obtain rfl := Option.some.inj same
      obtain rfl := Except.ok.inj (patched.symm.trans patched')
      exact ⟨rfl, number, progress, patch.toMessage, rfl, held, story, carries⟩
  case refused =>
    intro owner topic payload callback fault member other
    have unread := @patchOf_eq_error topic payload other
    cases owner with
    | none =>
      cases minds.dropped _ _ _ _ member with
      | refused _ unread' =>
        obtain rfl := Except.error.inj (unread.symm.trans unread')
        exact ⟨rfl, _, rfl⟩
      | nobody patched => cases unread.symm.trans patched
    | some number =>
      obtain ⟨_, _, inStory, tells⟩ := minds.exists_tells member
      obtain ⟨_, _, _, _, patched, _⟩ := tells.story inStory
      cases unread.symm.trans patched
  case dropped =>
    intro owner topic payload fault object member read
    cases owner with
    | none =>
      cases minds.dropped _ _ _ _ member with
      | refused _ unread =>
        obtain ⟨patch, patched, _⟩ := exists_patchOf topic read
        cases unread.symm.trans patched
      | nobody => exact ⟨rfl, rfl⟩
    | some number =>
      obtain ⟨_, _, inStory, tells⟩ := minds.exists_tells member
      obtain ⟨_, _, _, missing, _⟩ := tells.story inStory
      cases missing
  case only =>
    intro owner listener message member
    cases owner with
    | none => cases minds.silent _ member
    | some number =>
      obtain ⟨_, _, inStory, tells⟩ := minds.exists_tells member
      obtain ⟨topic, payload, target, patch, arrived, patched⟩ := tells.of_received inStory
      obtain ⟨object, read⟩ := exists_object patched
      exact ⟨number, topic, payload, target, object, rfl, Crew.mem_story.1 arrived, read⟩
  case works =>
    intro member job held
    have handing : ∃ callback patch, job = .handing callback patch := by
      have tells := minds.tells member _ held
      generalize handover.story member = story at tells
      cases tells with
      | waits callback patched => exact ⟨callback, _, rfl⟩
    obtain ⟨callback, patch, rfl⟩ := handing
    simp only [act, Crew.advance, held, onWork]
    exact Crew.member_follow_self held

/-- Every patch that a client is sent while a session has left a callback is received once by the listener
of the session, whole and with the version that belongs to it; one that finds no callback is dropped, and
what is no patch is refused. -/
theorem handsEach_handover (uplink : Uplink) (events : List Event) :
    HandsEach (uplink.handover events) (events.filterMap Event.arrival?) := by
  have minds := minds_onward (minds_begin { state := uplink }) events
  have whole := arrivals_onward { state := { state := uplink } } events
  have each := minds.handsEach
  rw [whole] at each
  exact each

end Handover

end Uplink

end DeviceGateway
