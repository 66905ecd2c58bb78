/-
# What a session asks of its client

A session talks to the hub through a client.  This module lists the calls a session makes, the answers
it gets, and the callbacks it leaves with the client for what the hub sends on its own.

The sessions of this library are written as programs in steps: an operation is a value that says how
far it has come, a step changes the state of the session and moves the operation on, and a call to the
client is a place where the operation waits.  Between two steps any other operation may run, so that
whatever holds after every sequence of steps holds for every way of running operations at the same
time.  `Move` is the outcome of a step.
-/

import DeviceGateway.Message.Convert
import DeviceGateway.Status

namespace DeviceGateway

/-- What one step of an operation leads to. -/
inductive Move (State Op Result : Type) where
  /-- The operation goes on from a new position. -/
  | go (state : State) (op : Op)
  /-- The operation is over. -/
  | done (state : State) (result : Result)
deriving Repr

namespace Move

variable {State Op Result Op' Result' : Type}

/-- The state after a step. -/
def state : Move State Op Result → State
  | go state _ => state
  | done state _ => state

/-- Read the positions and results of one kind of operation as those of another. -/
def map (position : Op → Op') (conclude : Result → Op' ⊕ Result') :
    Move State Op Result → Move State Op' Result'
  | go state op => go state (position op)
  | done state result =>
    match conclude result with
    | .inl op => go state op
    | .inr result => done state result

@[simp]
theorem state_go (state : State) (op : Op) : (go state op : Move State Op Result).state = state := rfl

@[simp]
theorem state_done (state : State) (result : Result) :
    (done state result : Move State Op Result).state = state := rfl

end Move

/-- Who receives what the hub sends to a session. -/
inductive Listener where
  /-- The listener of the program itself: it completes messages and refuses method calls. -/
  | logging
  /-- A local session, known by a number. -/
  | attached (number : Nat)
deriving DecidableEq, Repr, Inhabited

/-- What a callback is for. -/
inductive CallbackKind where
  /-- Requests to run a method. -/
  | method
  /-- Patches to the desired section of the twin. -/
  | desired
deriving DecidableEq, Repr

/-- What a client calls when the hub sends something. -/
inductive Callback where
  /-- Hand it to a listener; method calls name the target. -/
  | toListener (listener : Listener) (target : String)
  /-- Hand it to someone outside the session, known by a number. -/
  | external (number : Nat)
deriving DecidableEq, Repr

/-- A call to the client. -/
inductive ClientCall where
  | getTwin
  | send (message : HubMessage)
  | sendBatch (messages : List HubMessage)
  | updateReported (patch : PropertySet)
  | feedback (status : Feedback) (messageId : String)
  /-- Install a callback, or clear it. -/
  | setCallback (kind : CallbackKind) (callback : Option Callback)
  /-- Wait for a message, for a number of milliseconds. -/
  | receive (timeout : Nat)
  | close

/-- The answer to a call. -/
inductive ClientAnswer where
  /-- The answer to every call without a value. -/
  | done (answer : Answer Unit)
  | twin (answer : Answer Twin)
  | received (answer : Answer (Option HubMessage))

namespace ClientAnswer

/-- An answer without its value. -/
def outcome : ClientAnswer → Answer Unit
  | done answer => answer
  | twin answer => answer.map fun _ => ()
  | received answer => answer.map fun _ => ()

end ClientAnswer

/-- The first fault of two answers. -/
def Answer.and (first second : Answer Unit) : Answer Unit :=
  match first with
  | .ok _ => second
  | .error fault => .error fault

/-- Whether an answer is no fault. -/
def Answer.isOk {α : Type} : Answer α → Bool
  | .ok _ => true
  | .error _ => false

end DeviceGateway
