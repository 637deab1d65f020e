import ClassBatch.Batch.Clock
import ClassBatch.Batch.System
import ClassBatch.Batch.Timekeeper

/-!
A batch together with its timer and the clock that all of it reads. The tasks are made in order,
each at a reading of the clock, before the first of them is submitted. Handing a task to the timer,
running its timeout and closing the timer are steps of both.
-/

namespace ClassBatch.Batch

structure Timed where
  batch : System
  timer : Timekeeper String
  clock : Nat
  submissions : List (String × Nat) := []

namespace Timed

inductive Event
  | make (now : Nat)
  | batch (action : Action)
  | timer (move : Timekeeper.Move String)
deriving DecidableEq, Repr

def initial (config : Config) (fresh : Bool) (names : List String) (clock : Nat) : Timed :=
  { batch := System.initial config fresh names, timer := { clock }, clock }

def joined (s : Timed) : Action → Option (Timekeeper String)
  | .submit _ => if s.submissions.length = s.batch.tasks.length then some s.timer else none
  | .schedule name => do
    let (next, submitted) ← s.submissions[s.timer.calls.length]?
    let deadline ← after? submitted s.batch.config.timeout
    if next = name then s.timer.step (.schedule deadline name) else none
  | .fire name =>
    match s.timer.timer.queue with
    | a :: _ => if a.action = name then s.timer.step .act else none
    | [] => none
  | .close => s.timer.step .join
  | _ => some s.timer

/-- The clock after a move of the timer by itself. An action that is run is the batch's until it
returns, and so is the timer until the batch is through. -/
def clockAfter (s : Timed) : Timekeeper.Move String → Option Nat
  | .read now | .wait now => if s.clock ≤ now then some now.toNat else none
  | .finish => if s.batch.tasks.any Task.isExpiring then none else some s.clock
  | .hangUp => if s.batch.watch = .closing then some s.clock else none
  | .receive | .elapse | .stop => some s.clock
  | .schedule _ _ | .act | .join => none

/-- The state after an event, if it is possible. -/
def step (s : Timed) : Event → Option Timed
  | .make now => do
    let t ← s.batch.tasks[s.submissions.length]?
    if s.clock ≤ now then
      some { s with clock := now, submissions := s.submissions ++ [(t.name, now)] }
    else none
  | .batch action => do
    let timer ← s.joined action
    let batch ← s.batch.step action
    return { s with batch, timer }
  | .timer move => do
    let clock ← s.clockAfter move
    let timer ← s.timer.step move
    return { s with timer, clock }

def steps (s : Timed) (events : List Event) : Option Timed :=
  events.foldlM step s

end Timed

end ClassBatch.Batch
