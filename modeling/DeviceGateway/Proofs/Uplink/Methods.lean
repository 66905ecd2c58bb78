/-
# Method requests and their responses

A publication that is a method request leads to a job of its own.  The job keeps the callback that is
installed when the request arrives; whatever becomes of the callbacks of the client later, and in which
order other jobs end, this callback is asked, and what it answers is published once, under the identifier
of the request.  Without a callback the job says so itself.

The story of a job is told here from the publication that led to it on, and there is no other story than
these.
-/

import DeviceGateway.Proofs.Json.Values
import DeviceGateway.Proofs.Uplink.Run

namespace DeviceGateway

namespace Uplink

namespace Duty

/-- What a callback answers to a method request. -/
inductive Reply where
  /-- A listener of a session has answered. -/
  | listener (answer : MethodAnswer)
  /-- Somebody outside of a session has answered. -/
  | external (response : MethodResponse)

def Reply.response : Reply → MethodResponse
  | listener answer => answer.response
  | external response => response

/-- Whether a callback may answer so. -/
def admits : Callback → Reply → Bool
  | .toListener _ _, .listener _ => true
  | .external _, .external _ => true
  | _, _ => false

/-- What can be seen of publications and of the jobs that they lead to. -/
inductive Note where
  /-- A publication arrived for a destination, while the client had a callback for methods; it may be
  reported as a fault. -/
  | arrived (topic : String) (payload : Bytes) (destination : Option Destination)
      (callback : Option Callback) (fault : Option Fault)
  /-- The callback has answered. -/
  | answered (reply : Reply)
  /-- A publication was tried, well or not. -/
  | attempted (topic : String) (payload : Bytes) (outcome : Answer Unit)

end Duty

/-- A client and its calls, with the jobs that publications have led to. -/
abbrev Duty := Crew Run Job Unit Duty.Note

namespace Duty

/-- What happens to a client and its jobs. -/
inductive Event where
  /-- Something happens to the client and its calls. -/
  | runs (event : Uplink.Event)
  /-- The callback of a job answers. -/
  | answers (member : Nat) (reply : Reply)
  /-- A job that waits for no callback does its work. -/
  | works (member : Nat)

/-- What can be seen as a publication arrives. -/
def arrival (uplink : Uplink) (topic : String) (payload : Bytes) : Note :=
  .arrived topic payload (uplink.router.route topic) uplink.onMethod
    (match (uplink.accept topic payload).2 with
      | .ok _ => none
      | .error fault => some fault)

/-- The attempt to publish a response. -/
def attempt (requestId : String) (response : MethodResponse) (outcome : Answer Unit) : Note :=
  .attempted (Topic.Hub.methodResponse response.status requestId) response.payload outcome

def onReply (run : Run) (reply : Reply) (job : Job) : Option (Move Run Job Unit × List Note) :=
  match job with
  | .running callback _ =>
    if admits callback reply then some (.go run (job.answered reply.response), [.answered reply])
    else none
  | _ => none

def onWork (run : Run) : Job → Option (Move Run Job Unit × List Note)
  | .handing _ _ => some (.done run (), [])
  | .running _ _ => none
  | .responding requestId response =>
    some (.done (Uplink.act run (.responds requestId response)) (),
      [attempt requestId response
        (run.state.publish (Topic.Hub.methodResponse response.status requestId) response.payload).2])

/-- A client and its jobs after one more event.  Responses are published by jobs only. -/
def act (duty : Duty) : Event → Duty
  | .runs (.arrives topic payload) =>
    let after := duty.drift (Uplink.act duty.state (.arrives topic payload)) []
    let note := arrival duty.state.state topic payload
    match (duty.state.state.accept topic payload).2 with
    | .ok (some job) => after.enter job [note]
    | _ => after.drift after.state [note]
  | .runs (.responds _ _) => duty
  | .runs event => duty.drift (Uplink.act duty.state event) []
  | .answers member reply => duty.advance member (onReply duty.state reply)
  | .works member => duty.advance member (onWork duty.state)

def onward (duty : Duty) (events : List Event) : Duty := events.foldl act duty

end Duty

/-- A client through a list of events, with its jobs. -/
def duty (uplink : Uplink) (events : List Duty.Event) : Duty :=
  Duty.onward { state := { state := uplink } } events

namespace Duty

/-! ## The stories of jobs -/

/-- What a request is to be answered, by the callback that was there when it arrived and by what the job
was told since. -/
inductive Owes (request : MethodRequest) : Option Callback → List Note → MethodResponse → Prop
  /-- The callback has answered. -/
  | reply {callback : Callback} {reply : Reply} (admitted : admits callback reply = true) :
      Owes request (some callback) [.answered reply] reply.response
  /-- There was no callback. -/
  | refusal : Owes request none [] (notImplemented request.name)

/-- What has happened to a request since it arrived, and how far its job has come. -/
inductive Stands (request : MethodRequest) :
    Option Callback → List Note → Progress Job Unit → Prop
  /-- The callback is to answer. -/
  | waits (callback : Callback) :
      Stands request (some callback) [] (.running (.running callback request))
  /-- The response is to be published. -/
  | owes {callback : Option Callback} {told : List Note} {response : MethodResponse}
      (owed : Owes request callback told response) :
      Stands request callback told (.running (.responding request.requestId response))
  /-- The response was published, well or not. -/
  | done {callback : Option Callback} {told : List Note} {response : MethodResponse}
      (owed : Owes request callback told response) (outcome : Answer Unit) :
      Stands request callback (told ++ [attempt request.requestId response outcome]) (.ended ())

/-- The story of a job begins with the publication that led to it. -/
inductive Tells : List Note → Progress Job Unit → Prop
  | patch {topic : String} {payload : Bytes} {destination : Option Destination}
      {onMethod : Option Callback} (other : destination ≠ some .methodRequests)
      (callback : Callback) (patch : PropertySet) :
      Tells [.arrived topic payload destination onMethod none] (.running (.handing callback patch))
  | handed {topic : String} {payload : Bytes} {destination : Option Destination}
      {onMethod : Option Callback} (other : destination ≠ some .methodRequests) :
      Tells [.arrived topic payload destination onMethod none] (.ended ())
  | request {topic : String} {payload : Bytes} {callback : Option Callback} {name requestId : String}
      {told : List Note} {progress : Progress Job Unit}
      (parsed : Topic.Hub.parseMethodRequest? topic = some (name, requestId))
      (stands : Stands ⟨name, requestId, payload⟩ callback told progress) :
      Tells (.arrived topic payload (some .methodRequests) callback none :: told) progress

/-- What a publication leads to. -/
theorem tells_of_accept {uplink : Uplink} {topic : String} {payload : Bytes} {job : Job}
    (accepted : (uplink.accept topic payload).2 = .ok (some job)) :
    Tells [arrival uplink topic payload] (.running job) := by
  unfold arrival
  rw [accepted]
  unfold accept at accepted
  split at accepted
  case h_2 => cases accepted
  case h_1 destination routed =>
    rw [routed]
    cases destination with
    | twinResponses =>
      simp only [acceptFor] at accepted
      split at accepted <;> cases accepted
    | deviceMessages =>
      simp only [acceptFor] at accepted
      split at accepted <;> cases accepted
    | desiredPatches =>
      simp only [acceptFor] at accepted
      split at accepted
      case h_1 patch _ =>
        obtain ⟨callback, _, rfl⟩ := Option.map_eq_some_iff.1 (Except.ok.inj accepted)
        exact .patch (by decide) callback patch
      case h_2 => cases accepted
    | methodRequests =>
      simp only [acceptFor] at accepted
      split at accepted
      case h_1 name requestId parsed =>
        obtain rfl := Option.some.inj (Except.ok.inj accepted)
        refine .request parsed ?_
        cases uplink.onMethod with
        | some callback => exact .waits callback
        | none => exact .owes .refusal
      case h_2 => cases accepted

/-- A publication for the methods that leads to no job is refused. -/
theorem refused_of_accept {uplink : Uplink} {topic : String} (payload : Bytes)
    (routed : uplink.router.route topic = some .methodRequests)
    (idle : ∀ job, (uplink.accept topic payload).2 ≠ .ok (some job)) :
    Topic.Hub.parseMethodRequest? topic = none ∧
      arrival uplink topic payload = .arrived topic payload (some .methodRequests) uplink.onMethod
        (some (topicFault topic)) := by
  cases parsed : Topic.Hub.parseMethodRequest? topic with
  | none => simp [arrival, accept, acceptFor, routed, parsed]
  | some request =>
    have accepted : ∃ job, (uplink.accept topic payload).2 = .ok (some job) := by
      simp [accept, acceptFor, routed, parsed]
    obtain ⟨job, accepted⟩ := accepted
    exact absurd accepted (idle job)

/-- The moves that a job can make. -/
inductive Moves (run : Run) : Job → List Note → Move Run Job Unit → Prop
  | replied {callback : Callback} {request : MethodRequest} {reply : Reply}
      (admitted : admits callback reply = true) :
      Moves run (.running callback request) [.answered reply]
        (.go run (.responding request.requestId reply.response))
  | handed (callback : Callback) (patch : PropertySet) :
      Moves run (.handing callback patch) [] (.done run ())
  | responded (requestId : String) (response : MethodResponse) (outcome : Answer Unit) :
      Moves run (.responding requestId response) [attempt requestId response outcome]
        (.done (Uplink.act run (.responds requestId response)) ())

variable {run : Run} {job : Job} {move : Move Run Job Unit} {notes : List Note}

theorem moves_of_onReply {reply : Reply} (allowed : onReply run reply job = some (move, notes)) :
    Moves run job notes move := by
  unfold onReply at allowed
  split at allowed
  case h_1 =>
    split at allowed
    case isTrue admitted =>
      obtain ⟨rfl, rfl⟩ := Prod.mk.inj (Option.some.inj allowed)
      exact .replied admitted
    case isFalse => cases allowed
  case h_2 => cases allowed

theorem moves_of_onWork (allowed : onWork run job = some (move, notes)) : Moves run job notes move := by
  unfold onWork at allowed
  split at allowed
  case h_1 =>
    obtain ⟨rfl, rfl⟩ := Prod.mk.inj (Option.some.inj allowed)
    exact .handed ..
  case h_2 => cases allowed
  case h_3 =>
    obtain ⟨rfl, rfl⟩ := Prod.mk.inj (Option.some.inj allowed)
    exact .responded ..

/-- A move of a job continues its story. -/
theorem tells_of_moves (moved : Moves run job notes move) {story : List Note}
    (tells : Tells story (.running job)) : Tells (story ++ notes) move.progress := by
  cases moved with
  | replied admitted =>
    cases tells with
    | request parsed stands =>
      cases stands
      exact .request parsed (.owes (.reply admitted))
  | handed callback patch =>
    cases tells with
    | patch other callback patch => exact .handed other
    | request parsed stands => cases stands
  | responded requestId response outcome =>
    cases tells with
    | request parsed stands =>
      cases stands with
      | owes owed => exact .request parsed (.done owed outcome)

/-! ## What every event keeps -/

def Note.isAttempt : Note → Bool
  | attempted _ _ _ => true
  | _ => false

/-- The publication that an entry is about. -/
def Note.arrival? : Note → Option (String × Bytes)
  | arrived topic payload _ _ _ => some (topic, payload)
  | _ => none

/-- The publication that an event brings. -/
def Event.arrival? : Event → Option (String × Bytes)
  | runs (.arrives topic payload) => some (topic, payload)
  | _ => none

/-- Every job has its story, and outside of jobs there are only publications that led to none. -/
structure Minds (duty : Duty) : Prop where
  tidy : duty.Tidy
  tells : duty.Keeps fun _ => Tells
  /-- A publication for the methods that led to no job was refused. -/
  refused : ∀ topic payload callback fault,
    (none, .arrived topic payload (some .methodRequests) callback fault) ∈ duty.log →
      Topic.Hub.parseMethodRequest? topic = none ∧ fault = some (topicFault topic)
  silent : ∀ note : Note, (none, note) ∈ duty.log → note.isAttempt = false

variable {duty : Duty}

theorem minds_begin (run : Run) : Minds { state := run } := by
  constructor
  case tidy => exact fun _ _ => nofun
  case tells => exact fun _ _ => nofun
  case refused => exact fun _ _ _ _ => nofun
  case silent => exact fun _ => nofun

theorem Minds.drift (minds : Minds duty) (run : Run) : Minds (duty.drift run []) := by
  constructor
  case tidy => exact Crew.tidy_drift minds.tidy run
  case tells => exact Crew.keeps_drift minds.tells fun _ _ fits => fits
  case refused => simpa [Crew.drift] using minds.refused
  case silent => simpa [Crew.drift] using minds.silent

theorem Minds.advance (minds : Minds duty) {member : Nat}
    {rule : Job → Option (Move Run Job Unit × List Note)}
    (sound : ∀ {job move notes}, rule job = some (move, notes) → Moves duty.state job notes move) :
    Minds (duty.advance member rule) := by
  apply Crew.advance_induction minds
  intro job move notes held allowed
  constructor
  case tidy => exact Crew.tidy_follow held minds.tidy
  case tells =>
    exact Crew.keeps_follow held minds.tells (fun _ _ fits => fits) (tells_of_moves (sound allowed))
  case refused => simpa [Crew.follow] using minds.refused
  case silent => simpa [Crew.follow] using minds.silent

theorem Minds.enter (minds : Minds duty) {job : Job} {note : Note}
    (tells : Tells [note] (.running job)) : Minds (duty.enter job [note]) := by
  constructor
  case tidy => exact Crew.tidy_enter minds.tidy job
  case tells => exact Crew.keeps_enter minds.tidy minds.tells tells
  case refused => simpa [Crew.enter] using minds.refused
  case silent => simpa [Crew.enter] using minds.silent

theorem Minds.arrives (minds : Minds duty) (uplink : Uplink) (topic : String) (payload : Bytes)
    (run : Run) (idle : ∀ job, (uplink.accept topic payload).2 ≠ .ok (some job)) :
    Minds (duty.drift run [arrival uplink topic payload]) := by
  constructor
  case tidy => exact Crew.tidy_drift minds.tidy run
  case tells => exact Crew.keeps_drift minds.tells fun _ _ fits => fits
  case refused =>
    intro topic' payload' callback fault member
    rcases (Crew.mem_log_drift run).1 member with old | ⟨_, new⟩
    · exact minds.refused topic' payload' callback fault old
    · have same := List.mem_singleton.1 new
      have routed : uplink.router.route topic = some .methodRequests := by
        simp only [arrival, Note.arrived.injEq] at same
        exact same.2.2.1.symm
      obtain ⟨none, refused⟩ := refused_of_accept payload routed idle
      obtain ⟨rfl, _, _, _, rfl⟩ := Note.arrived.inj (same.trans refused)
      exact ⟨none, rfl⟩
  case silent =>
    intro note member
    rcases (Crew.mem_log_drift run).1 member with old | ⟨_, new⟩
    · exact minds.silent note old
    · obtain rfl := List.mem_singleton.1 new
      rfl

theorem minds_act (minds : Minds duty) (event : Event) : Minds (act duty event) := by
  cases event with
  | answers member reply => exact minds.advance moves_of_onReply
  | works member => exact minds.advance moves_of_onWork
  | runs event =>
    cases event with
    | arrives topic payload =>
      have after := minds.drift (Uplink.act duty.state (.arrives topic payload))
      simp only [act]
      split
      case h_1 job accepted => exact after.enter (tells_of_accept accepted)
      case h_2 idle => exact after.arrives duty.state.state topic payload _ idle
    | responds requestId response => exact minds
    | _ => exact minds.drift _

theorem minds_onward (minds : Minds duty) (events : List Event) : Minds (onward duty events) := by
  induction events generalizing duty with
  | nil => exact minds
  | cons event events ih => exact ih (minds_act minds event)

/-! ## Each publication once -/

/-- The publications that have arrived, from the first on. -/
def arrivals (duty : Duty) : List (String × Bytes) := duty.log.filterMap fun entry => entry.2.arrival?

theorem arrivals_drift (run : Run) : arrivals (duty.drift run []) = arrivals duty := by
  simp [arrivals, Crew.drift]

/-- A publication is noted once, with the callback that the client has as it arrives. -/
theorem log_arrives (duty : Duty) (topic : String) (payload : Bytes) : ∃ owner,
    (act duty (.runs (.arrives topic payload))).log =
      duty.log ++ [(owner, arrival duty.state.state topic payload)] := by
  simp only [act]
  split
  case h_1 => exact ⟨some duty.members.length, by simp [Crew.enter, Crew.drift]⟩
  case h_2 => exact ⟨none, by simp [Crew.drift]⟩

theorem arrivals_advance {member : Nat} {rule : Job → Option (Move Run Job Unit × List Note)}
    (sound : ∀ {job move notes}, rule job = some (move, notes) → Moves duty.state job notes move) :
    arrivals (duty.advance member rule) = arrivals duty := by
  refine @Crew.advance_induction _ _ _ _ duty member (arrivals · = arrivals duty) rule rfl ?_
  intro job move notes _ allowed
  have quiet : notes.filterMap Note.arrival? = [] := by cases sound allowed <;> rfl
  simpa [arrivals, Crew.follow, List.filterMap_map, Function.comp_def] using quiet

theorem arrivals_act (event : Event) :
    arrivals (act duty event) = arrivals duty ++ event.arrival?.toList := by
  cases event with
  | answers member reply => exact (arrivals_advance moves_of_onReply).trans (List.append_nil _).symm
  | works member => exact (arrivals_advance moves_of_onWork).trans (List.append_nil _).symm
  | runs event =>
    cases event with
    | arrives topic payload =>
      obtain ⟨owner, log⟩ := log_arrives duty topic payload
      rw [arrivals, log, List.filterMap_append]
      rfl
    | responds requestId response => exact (List.append_nil _).symm
    | _ => exact (arrivals_drift _).trans (List.append_nil _).symm

theorem arrivals_onward (duty : Duty) (events : List Event) :
    arrivals (onward duty events) = arrivals duty ++ events.filterMap Event.arrival? :=
  Crew.filterMap_log_foldl @arrivals_act duty events

/-! ## Responses -/

/-- How often the response of a job is published, by how far the job has come. -/
def attemptsAt : Option (Progress Job Unit) → Nat
  | some (.ended _) => 1
  | _ => 0

theorem Owes.countP {request : MethodRequest} {callback : Option Callback} {told : List Note}
    {response : MethodResponse} (owed : Owes request callback told response) :
    told.countP Note.isAttempt = 0 := by
  cases owed <;> rfl

theorem Stands.countP {request : MethodRequest} {callback : Option Callback} {told : List Note}
    {progress : Progress Job Unit} (stands : Stands request callback told progress) :
    told.countP Note.isAttempt = attemptsAt (some progress) := by
  cases stands with
  | waits callback => rfl
  | owes owed => exact owed.countP
  | done owed outcome =>
    rw [List.countP_append, owed.countP]
    rfl

/-- A job that has a publication for the methods in its story answers the request that it is. -/
theorem Tells.stands {story : List Note} {progress : Progress Job Unit} (tells : Tells story progress)
    {topic : String} {payload : Bytes} {callback : Option Callback} {fault : Option Fault}
    (member : .arrived topic payload (some .methodRequests) callback fault ∈ story) :
    fault = none ∧ ∃ name requestId told,
      Topic.Hub.parseMethodRequest? topic = some (name, requestId) ∧
        story = .arrived topic payload (some .methodRequests) callback none :: told ∧
          Stands ⟨name, requestId, payload⟩ callback told progress := by
  cases tells with
  | patch other | handed other =>
    have same := List.mem_singleton.1 member
    exact absurd (Note.arrived.inj same).2.2.1.symm other
  | @request topic' payload' callback' name requestId told progress parsed stands =>
    rcases List.mem_cons.1 member with same | later
    · obtain ⟨rfl, rfl, _, rfl, rfl⟩ := Note.arrived.inj same
      exact ⟨rfl, name, requestId, told, parsed, rfl, stands⟩
    · -- Nothing arrives later in the story of a job.
      have quiet : ∀ note ∈ told, note.arrival? = none := by
        cases stands with
        | waits callback =>
          intro note none
          cases none
        | owes owed => cases owed <;> simp [Note.arrival?]
        | done owed outcome => cases owed <;> simp [attempt, Note.arrival?]
      cases quiet _ later

theorem Minds.exists_tells (minds : Minds duty) {member : Nat} {note : Note}
    (told : (some member, note) ∈ duty.log) : ∃ progress, duty.members[member]? = some progress ∧
      note ∈ duty.story member ∧ Tells (duty.story member) progress := by
  have inStory := Crew.mem_story.2 told
  obtain ⟨progress, held, tells⟩ := minds.tells.exists_fits minds.tidy inStory
  exact ⟨progress, held, inStory, tells⟩

end Duty

end Uplink

end DeviceGateway
