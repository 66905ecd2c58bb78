/-
# The supervisor of the connection

The supervisor connects a client to the hub, watches over the connection and connects again when it is
lost, at the pace of a retry policy.  It counts the attempts in a row that brought no connection; one
that did starts the count and the intervals anew.

It ends in one of three ways, each announced once: the client was closed, the hub refused the
credentials, or no further attempt is allowed.  Before every further attempt it announces why the
connection was lost.

The supervisor moves by inputs: what happens on the connection, the end of a pause, and its own next
move, which takes the time since the beginning and the varied interval for the case that a pause
follows.  That the client was closed shows in the client itself and is noticed by the next move.
-/

import DeviceGateway.Retry.Backoff
import DeviceGateway.Uplink.Basic

namespace DeviceGateway.Uplink

/-- The answer of the hub to a request to connect. -/
inductive ConnectCode where
  | success
  | wrongProtocolVersion
  | badClientId
  | serviceUnavailable
  | badUserNamePassword
  | notAuthorized
deriving DecidableEq, Repr

/-- How a connection fails. -/
inductive Failure where
  /-- The hub refused it. -/
  | refused (code : ConnectCode)
  /-- The network failed. -/
  | io
  /-- The network did not answer in time. -/
  | networkTimeout
  /-- What was sent did not leave in time. -/
  | flushTimeout
  /-- The protocol was broken. -/
  | protocol
  /-- Nobody makes requests any more. -/
  | requestsDone
deriving DecidableEq, Repr

namespace Failure

/-- The reason that is announced for a failure. -/
def reason : Failure → StatusReason
  | refused .notAuthorized | refused .badUserNamePassword => .expiredCredential
  | io | networkTimeout => .noNetwork
  | _ => .communicationError

/-- Whether connecting again cannot help: the hub refused the credentials. -/
def isFatal : Failure → Bool
  | refused .notAuthorized | refused .badUserNamePassword => true
  | _ => false

end Failure

/-- What happens on a connection. -/
inductive ConnectionEvent where
  /-- The hub accepted the connection. -/
  | accepted
  /-- The hub sent a publication, which was passed on. -/
  | published
  /-- The hub sent a publication, and nobody is there to take it. -/
  | unheard
  /-- The hub ended the connection. -/
  | ended
  /-- The connection failed. -/
  | failed (failure : Failure) (text : String)
deriving DecidableEq, Repr

namespace Supervisor

/-- How a supervisor ends. -/
inductive Ending where
  /-- The client was closed. -/
  | cancelled
  /-- The hub refused the credentials. -/
  | refused
  /-- No further attempt is allowed. -/
  | exhausted
deriving DecidableEq, Repr

/-- The position of a supervisor. -/
inductive Position where
  /-- The next attempt is to be made. -/
  | ready
  /-- A connection is wanted or up; whether it came up. -/
  | attempting (cameUp : Bool)
  /-- The connection is gone, for a reason, and perhaps for good. -/
  | lost (cameUp : Bool) (reason : StatusReason) (fatal : Bool)
  /-- It pauses for a number of nanoseconds. -/
  | pausing (interval : Nat)
  | ended (ending : Ending)
deriving DecidableEq, Repr

end Supervisor

/-- A supervisor. -/
structure Supervisor where
  policy : Retry.Policy
  /-- The intervals between attempts. -/
  backoff : Retry.Backoff
  /-- How many attempts in a row brought no connection; the present one counts. -/
  attempts : Nat := 0
  /-- How many attempts were made in all. -/
  made : Nat := 0
  position : Supervisor.Position := .ready

namespace Supervisor

/-- A supervisor that has not begun. -/
def new (policy : Retry.Policy) : Supervisor := { policy, backoff := .ofPolicy policy }

/-- What moves a supervisor. -/
inductive Input where
  /-- Its own next move. -/
  | proceed (elapsed interval : Nat)
  /-- Something happened on the connection. -/
  | event (event : ConnectionEvent)
  /-- The pause is over. -/
  | timeUp

/-- Why no attempt is allowed after a number of failures in a row. -/
def attemptsExhausted (greatest : Nat) : String :=
  "Max retry attempts (Some(" ++ Numeral.ofNat greatest ++ ")) exhausted"

/-- Why no attempt is allowed after too long a time. -/
def timeExhausted : String := "Backoff time exhausted"

/-- The reason of a refusal that came without one. -/
def unexplainedRefusal : String := "credentials rejected"

/-- End because the client was closed. -/
def cancel (supervisor : Supervisor) (uplink : Uplink) : Uplink × Supervisor :=
  ((uplink.disconnected.enter .disconnected).announce .disabled .clientClose,
    { supervisor with position := .ended .cancelled })

/-- End because the hub refused the credentials. -/
def acceptRefusal (supervisor : Supervisor) (uplink : Uplink) (reason : StatusReason) :
    Uplink × Supervisor :=
  let text := uplink.gate.lastError.getD unexplainedRefusal
  (((uplink.refuse (.unauthorized uplink.identity.toText text)).enter (.failed text)).announce
      .disconnected reason,
    { supervisor with position := .ended .refused })

/-- End because no further attempt is allowed. -/
def giveUp (supervisor : Supervisor) (uplink : Uplink) (text : String) : Uplink × Supervisor :=
  ((uplink.disconnected.enter (.failed text)).announce .disconnected .retryExpired,
    { supervisor with position := .ended .exhausted })

/-- What happens on the connection. -/
def observe (supervisor : Supervisor) (uplink : Uplink) (cameUp : Bool) :
    ConnectionEvent → Uplink × Supervisor
  | .accepted =>
    (uplink.connected.announce .connected .connectionOk,
      { supervisor with position := .attempting true })
  | .published => (uplink, supervisor)
  | .unheard =>
    (uplink.disconnected, { supervisor with position := .lost cameUp .clientClose false })
  | .ended =>
    (uplink.lost "server sent disconnect",
      { supervisor with position := .lost cameUp .communicationError false })
  | .failed failure text =>
    (uplink.lost text, { supervisor with position := .lost cameUp failure.reason failure.isFatal })

/-- Count anew after an attempt that brought a connection. -/
def recount (supervisor : Supervisor) (cameUp : Bool) : Supervisor :=
  if cameUp then { supervisor with attempts := 0, backoff := supervisor.backoff.reset }
  else supervisor

/-- Pause before the next attempt, or give up. -/
def pause (supervisor : Supervisor) (uplink : Uplink) (reason : StatusReason)
    (elapsed interval : Nat) : Uplink × Supervisor :=
  match supervisor.backoff.nextOf elapsed interval with
  | (none, backoff) => { supervisor with backoff }.giveUp uplink timeExhausted
  | (some interval, backoff) =>
    ((uplink.enter .reconnecting).announce .disconnectedRetrying reason,
      { supervisor with backoff, position := .pausing interval })

/-- Decide what follows a connection that is gone. -/
def decide (supervisor : Supervisor) (uplink : Uplink) (reason : StatusReason) (fatal : Bool)
    (elapsed interval : Nat) : Uplink × Supervisor :=
  if uplink.isClosed then supervisor.cancel uplink
  else if fatal then supervisor.acceptRefusal uplink reason
  else if supervisor.policy.allowsAttempt supervisor.attempts then
    supervisor.pause uplink reason elapsed interval
  else supervisor.giveUp uplink (attemptsExhausted (supervisor.policy.maxAttempts.getD 0))

/-- The next move of a supervisor. -/
def proceed (supervisor : Supervisor) (uplink : Uplink) (elapsed interval : Nat) :
    Uplink × Supervisor :=
  match supervisor.position with
  | .ready =>
    if uplink.isClosed then supervisor.cancel uplink
    else
      (uplink.enter .connecting,
        { supervisor with
          attempts := supervisor.attempts + 1
          made := supervisor.made + 1
          position := .attempting false })
  | .attempting cameUp =>
    if uplink.isClosed then
      (uplink.disconnected, { supervisor with position := .lost cameUp .clientClose false })
    else (uplink, supervisor)
  | .lost cameUp reason fatal =>
    (supervisor.recount cameUp).decide uplink reason fatal elapsed interval
  | .pausing _ => if uplink.isClosed then supervisor.cancel uplink else (uplink, supervisor)
  | .ended _ => (uplink, supervisor)

/-- One step of a supervisor. -/
def step (supervisor : Supervisor) (uplink : Uplink) : Input → Uplink × Supervisor
  | .proceed elapsed interval => supervisor.proceed uplink elapsed interval
  | .event event =>
    match supervisor.position with
    | .attempting cameUp => supervisor.observe uplink cameUp event
    | _ => (uplink, supervisor)
  | .timeUp =>
    match supervisor.position with
    | .pausing _ => (uplink, { supervisor with position := .ready })
    | _ => (uplink, supervisor)

/-- Whether a supervisor has ended. -/
def hasEnded (supervisor : Supervisor) : Bool :=
  match supervisor.position with
  | .ended _ => true
  | _ => false

/-- A supervisor that has ended does nothing more. -/
theorem step_of_hasEnded {supervisor : Supervisor} (ended : supervisor.hasEnded = true)
    (uplink : Uplink) (input : Input) : supervisor.step uplink input = (uplink, supervisor) := by
  unfold hasEnded at ended
  cases input <;> unfold step <;> try unfold proceed
  all_goals
    cases shape : supervisor.position <;> simp_all

end Supervisor

end DeviceGateway.Uplink
