import ClassBatch.Batch.Timer

/-!
A timer at work. Actions are sent to it one by one and lie in its mailbox until it takes them. To shut it
down is to hang up and then to wait until it is over, which it is once its mailbox is empty. Every
move of the timer or of its owner is one atomic step, and a wait that is bounded may end at any time.
-/

namespace ClassBatch.Batch

inductive Stage
  | idle
  | looking (now : Int)
  | acting (now : Int)
  | waiting (now : Int) (patience : Option Int)
  | over
deriving DecidableEq, Repr

structure Timekeeper (α : Type) where
  timer : Timer α := {}
  stage : Stage := .idle
  clock : Int
  mailbox : List (Int × α) := []
  isOpen : Bool := true
  isShut : Bool := false
  calls : List (Int × α) := []
  rounds : List (Round α) := []
  firings : List (Firing α) := []
  discards : List (Alarm α) := []

namespace Timekeeper

inductive Move (α : Type)
  | schedule (deadline : Int) (action : α)
  | hangUp
  | join
  | read (now : Int)
  | act
  | finish
  | wait (now : Int)
  | receive
  | elapse
  | stop
deriving DecidableEq, Repr

variable {α : Type}

/-- The state after a move, if it is possible. -/
def step (s : Timekeeper α) : Move α → Option (Timekeeper α)
  | .schedule deadline action =>
    let calls := s.calls ++ [(deadline, action)]
    if s.isOpen then some { s with calls, mailbox := s.mailbox ++ [(deadline, action)] }
    else some { s with calls, discards := s.discards ++ [⟨deadline, s.calls.length, action⟩] }
  | .hangUp => some { s with isOpen := false }
  | .join => if s.stage = .over then some { s with isShut := true } else none
  | .read now =>
    if s.stage = .idle ∧ s.clock ≤ now then some { s with stage := .looking now, clock := now }
    else none
  | .act =>
    match s.stage, s.timer.queue with
    | .looking now, a :: queue =>
      if a.deadline ≤ now then
        some { s with
          stage := .acting now
          timer := { s.timer with queue }
          firings := s.firings ++ [⟨a, now⟩] }
      else none
    | _, _ => none
  | .finish =>
    match s.stage with
    | .acting now => some { s with stage := .looking now }
    | _ => none
  | .wait again =>
    match s.stage, s.timer.queue with
    | .looking now, [] => some { s with stage := .waiting now none }
    | .looking now, a :: _ =>
      if now < a.deadline ∧ s.clock ≤ again then
        some { s with clock := again, stage := .waiting now (some (max 0 (a.deadline - again))) }
      else none
    | _, _ => none
  | .receive =>
    match s.stage, s.mailbox with
    | .waiting now _, (deadline, action) :: mailbox =>
      some { s with
        stage := .idle
        mailbox
        timer := s.timer.receive deadline action
        rounds := s.rounds ++ [⟨now, .message deadline action⟩] }
    | _, _ => none
  | .elapse =>
    match s.stage with
    | .waiting now (some _) =>
      some { s with stage := .idle, rounds := s.rounds ++ [⟨now, .elapsed⟩] }
    | _ => none
  | .stop =>
    match s.stage, s.mailbox, s.isOpen with
    | .waiting now _, [], false =>
      some { s with
        stage := .over
        timer := { s.timer with queue := [] }
        rounds := s.rounds ++ [⟨now, .closed⟩]
        discards := s.discards ++ s.timer.queue }
    | _, _, _ => none

def steps (s : Timekeeper α) (moves : List (Move α)) : Option (Timekeeper α) :=
  moves.foldlM step s

end Timekeeper

end ClassBatch.Batch
