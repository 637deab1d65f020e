/-!
A timer that runs actions at their deadlines. It takes one message at a time and before each runs
whatever is due, the earliest deadline first and equal deadlines in the order of their arrival.
-/

namespace ClassBatch.Batch

variable {α : Type}

structure Alarm (α : Type) where
  deadline : Int
  arrival : Nat
  action : α
deriving DecidableEq, Repr

def Alarm.precedes (a b : Alarm α) : Bool :=
  a.deadline < b.deadline || (a.deadline = b.deadline && a.arrival < b.arrival)

structure Timer (α : Type) where
  queue : List (Alarm α) := []
  arrivals : Nat := 0
deriving Repr

inductive Arrival (α : Type)
  | message (deadline : Int) (action : α)
  | elapsed
  | closed
deriving DecidableEq, Repr

structure Round (α : Type) where
  now : Int
  arrival : Arrival α
deriving DecidableEq, Repr

structure Firing (α : Type) where
  alarm : Alarm α
  now : Int
deriving DecidableEq, Repr

namespace Timer

def insert (a : Alarm α) : List (Alarm α) → List (Alarm α)
  | [] => [a]
  | b :: rest => if a.precedes b then a :: b :: rest else b :: insert a rest

def receive (t : Timer α) (deadline : Int) (action : α) : Timer α :=
  ⟨insert ⟨deadline, t.arrivals, action⟩ t.queue, t.arrivals + 1⟩

def due (t : Timer α) (now : Int) : List (Alarm α) :=
  t.queue.takeWhile fun a => a.deadline ≤ now

def fire (t : Timer α) (now : Int) : List (Firing α) × Timer α :=
  ((t.due now).map (⟨·, now⟩), { t with queue := t.queue.dropWhile fun a => a.deadline ≤ now })

/-- Goes through some rounds; a closed one is the last. What is left in the queue then never runs. -/
def run (t : Timer α) : List (Round α) → List (Firing α) × Timer α
  | [] => ([], t)
  | round :: rest =>
    let (fired, t) := t.fire round.now
    match round.arrival with
    | .closed => (fired, t)
    | .elapsed =>
      let (later, t) := t.run rest
      (fired ++ later, t)
    | .message deadline action =>
      let (later, t) := (t.receive deadline action).run rest
      (fired ++ later, t)

def waits : Nat → List (Alarm α) → List (Round α)
  | 0, _ => []
  | _ + 1, [] => []
  | wanted + 1, a :: rest => ⟨a.deadline, .elapsed⟩ :: waits wanted rest

/-- What runs if all actions arrive at once at time zero and the timer is closed as soon as `wanted`
of them have run. -/
def rehearse (actions : List (Int × α)) (wanted : Nat) : List α :=
  let messages := actions.map fun (deadline, action) => Round.mk 0 (.message deadline action)
  let (early, t) := ({} : Timer α).run (messages ++ [⟨0, .elapsed⟩])
  let (late, t) := t.run (waits (wanted - early.length) t.queue)
  let last := late.getLast?.elim 0 Firing.now
  let (rest, _) := t.run [⟨last, .closed⟩]
  (early ++ late ++ rest).map fun f => f.alarm.action

end Timer

end ClassBatch.Batch
