import ClassBatch.Batch.Outcome
import ClassBatch.Duration
import ClassBatch.Error
import ClassBatch.Progress
import ClassBatch.Source.Escape
import ClassBatch.Source.Stub

/-!
The tasks of a batch. A task is worked on by a worker and watched by the timer; each of the two may
attempt to settle it.
-/

namespace ClassBatch.Batch

inductive Reply
  | source (text : String)
  | error (cause : DecompileError)
  | panic (payload : Option String)
deriving DecidableEq, Repr

def failure (name : String) (cause : DecompileError) : Outcome :=
  .failure (Source.failureStub name) cause.message

def Reply.outcome (name : String) : Reply → Outcome
  | source text => .success (Source.unescape text)
  | error cause => failure name cause
  | panic payload => failure name (.panicked (payload.getD "unknown panic"))

def expired (name : String) : Outcome :=
  .timedOut (Source.timeoutStub name)

inductive Creation
  | made
  | refused (cause : DecompileError)
  | panicked
deriving DecidableEq, Repr

/-- How far an attempt to settle a task has come. -/
inductive Attempt
  | ready (outcome : Outcome) (duration : Duration)
  | holding (outcome : Outcome) (duration : Duration)
  | won (outcome : Outcome) (duration : Duration)
  | entered (progress : Progress)
  | reporting
  | reported
  | telling
  | over (settled : Bool)
deriving DecidableEq, Repr

/-- How far a worker has come with a task. -/
inductive Work
  | unsubmitted
  | queued
  | taken
  | checked
  | equipped (backend : Nat)
  | calling (backend : Nat)
  | answered (outcome : Outcome)
  | settling (attempt : Attempt)
  | skipped
  | lost
deriving DecidableEq, Repr

/-- How far the timer has come with a task. -/
inductive Expiry
  | unscheduled
  | scheduled
  | settling (attempt : Attempt)
  | cancelling
  | over
deriving DecidableEq, Repr

structure Task where
  name : String
  work : Work := .unsubmitted
  expiry : Expiry := .unscheduled
  cancelled : Bool := false
deriving DecidableEq, Repr

namespace Task

def isActive (t : Task) : Bool :=
  match t.work with
  | .taken | .checked | .equipped _ | .calling _ | .answered _ => true
  | .settling (.over _) => false
  | .settling _ => true
  | _ => false

def isExpiring (t : Task) : Bool :=
  match t.expiry with
  | .settling _ | .cancelling => true
  | _ => false

end Task

end ClassBatch.Batch
