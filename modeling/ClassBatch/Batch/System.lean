import ClassBatch.Batch.Config
import ClassBatch.Batch.Settlement
import ClassBatch.Batch.Task

/-!
A batch as a system of workers, a timer, an orchestrator that waits for the batch to settle, and
those who may abort it. Every action is one atomic step of one of them. The delivery lock is held
from before the flag of a task is raised until the report on it has returned; the phase lock is held
by the orchestrator from its first test to its decision or its wait, and nobody else can tell it
anything meanwhile.
-/

namespace ClassBatch.Batch

inductive Phase
  | pending
  | running
  | completed
  | aborted
deriving DecidableEq, Repr

inductive Ending
  | completed (ledger : Ledger)
  | aborted
  | panicked
deriving DecidableEq, Repr

inductive Watch
  | absent
  | outside
  | locked
  | unaborted
  | incomplete
  | asleep (told : Bool)
  | sweeping (names : List String)
  | closing
  | reporting (ledger : Ledger)
  | over (ending : Ending)
deriving DecidableEq, Repr

inductive Side
  | worker
  | timer
deriving DecidableEq, Repr

structure System where
  config : Config
  fresh : Bool
  tasks : List Task
  settlement : Settlement
  delivering : Bool := false
  phase : Phase := .pending
  watch : Watch := .absent
  abortRequested : Bool := false
  abortSignals : Nat := 0
  timerOpen : Bool := true
  created : Nat := 1
  calls : List (Nat × String) := []
  reports : List Progress := []
  returned : Nat := 0
  panics : Nat := 0
  completions : List Ledger := []

inductive Action
  | submit (name : String)
  | schedule (name : String)
  | launch
  | take (name : String)
  | check (name : String)
  | equip (name : String) (creation : Creation)
  | call (name : String)
  | reply (name : String) (reply : Reply)
  | time (name : String) (duration : Duration)
  | fire (name : String)
  | advance (side : Side) (name : String) (panics : Bool)
  | cancel (name : String)
  | requestAbort
  | signalAbort
  | lock
  | testAbort
  | testComplete
  | giveUp
  | sleep
  | wake
  | stir
  | sweep
  | close
  | complete (panics : Bool)
deriving DecidableEq, Repr

namespace System

/-- A batch over the distinct names, in order, before its first task is submitted. -/
def initial (config : Config) (fresh : Bool) (names : List String) : System :=
  let names := Names.sorted names
  { config, fresh, tasks := names.map fun name => { name }
    settlement := Settlement.empty names.length }

def task? (s : System) (name : String) : Option Task :=
  s.tasks.find? fun t => t.name = name

def setTask (s : System) (t : Task) : System :=
  { s with tasks := s.tasks.map fun other => if other.name = t.name then t else other }

def setWork (s : System) (t : Task) (work : Work) : System :=
  s.setTask { t with work }

def activeWorkers (s : System) : Nat :=
  s.tasks.countP Task.isActive

def phaseLocked (s : System) : Bool :=
  match s.watch with
  | .locked | .unaborted | .incomplete => true
  | _ => false

def tell (s : System) : System :=
  match s.watch with
  | .asleep _ => { s with watch := .asleep true }
  | _ => s

/-- One step of an attempt to settle a task. -/
def advance (s : System) (name : String) (panics : Bool) : Attempt → Option (Attempt × System)
  | .ready outcome duration =>
    if s.delivering then none
    else some (.holding outcome duration, { s with delivering := true })
  | .holding outcome duration =>
    match s.settlement.trySettle name with
    | (true, settlement) => some (.won outcome duration, { s with settlement })
    | (false, _) => some (.over false, { s with delivering := false })
  | .won outcome duration =>
    match s.settlement.record name outcome duration with
    | (some progress, settlement) => some (.entered progress, { s with settlement })
    | (none, _) => some (.over false, { s with delivering := false })
  | .entered progress => some (.reporting, { s with reports := s.reports ++ [progress] })
  | .reporting => some (.reported,
      { s with returned := s.returned + 1, panics := s.panics + panics.toNat })
  | .reported => some (.telling, { s with delivering := false })
  | .telling => if s.phaseLocked then none else some (.over true, s.tell)
  | .over _ => none

/-- Whether a task is the next to be submitted: all before it are with the timer already. -/
def isNext (s : System) (t : Task) : Bool :=
  match s.tasks.find? fun other => other.expiry = .unscheduled with
  | some other => other.name = t.name
  | none => false

def decide (s : System) (phase : Phase) : System :=
  { s with phase, watch := .sweeping (s.tasks.map Task.name) }

def cancelUnsettled (s : System) (name : String) : System :=
  if s.settlement.isSettled name then s
  else match s.task? name with
    | some t => s.setTask { t with cancelled := true }
    | none => s

def stepTask (s : System) (t : Task) : Action → Option System
  | .submit _ =>
    if t.work = .unsubmitted && s.isNext t then some (s.setWork t .queued) else none
  | .schedule _ =>
    if t.work ≠ .unsubmitted && t.expiry = .unscheduled then
      some (s.setTask { t with expiry := .scheduled })
    else none
  | .take _ =>
    if t.work = .queued && s.activeWorkers < s.config.workers then
      some (s.setWork t (if s.settlement.isSettled t.name then .skipped else .taken))
    else none
  | .check _ =>
    if t.work = .taken then some (s.setWork t (if t.cancelled then .skipped else .checked))
    else none
  | .equip _ creation =>
    if t.work ≠ .checked then none
    else if s.fresh then
      let s := { s with created := s.created + 1 }
      match creation with
      | .made => some (s.setWork t (.equipped (s.created - 1)))
      | .refused cause => some (s.setWork t (.answered (failure t.name cause)))
      | .panicked => some (s.setWork t .lost)
    else some (s.setWork t (.equipped 0))
  | .call _ =>
    match t.work with
    | .equipped backend =>
      some ({ s with calls := s.calls ++ [(backend, t.name)] }.setWork t (.calling backend))
    | _ => none
  | .reply _ reply =>
    match t.work with
    | .calling _ => some (s.setWork t (.answered (reply.outcome t.name)))
    | _ => none
  | .time _ duration =>
    match t.work with
    | .answered outcome => some (s.setWork t (.settling (.ready outcome duration)))
    | _ => none
  | .fire _ =>
    if t.expiry = .scheduled && s.timerOpen && !s.tasks.any Task.isExpiring then
      some (s.setTask { t with
        expiry := .settling (.ready (expired t.name) s.config.timeout) })
    else none
  | .advance .worker _ panics =>
    match t.work with
    | .settling attempt => do
      let (attempt, s) ← s.advance t.name panics attempt
      return s.setWork t (.settling attempt)
    | _ => none
  | .advance .timer _ panics =>
    match t.expiry with
    | .settling attempt => do
      let (attempt, s) ← s.advance t.name panics attempt
      let expiry : Expiry := match attempt with
        | .over true => .cancelling
        | .over false => .over
        | attempt => .settling attempt
      return s.setTask { t with expiry }
    | _ => none
  | .cancel _ =>
    if t.expiry = .cancelling then some (s.setTask { t with expiry := .over, cancelled := true })
    else none
  | _ => none

def launch (s : System) : Option System :=
  if s.watch = .absent && s.tasks.all (fun t => t.expiry ≠ .unscheduled) then
    some { s with phase := .running, watch := .outside }
  else none

def sweep (s : System) : Option System :=
  match s.watch with
  | .sweeping [] => some { s with watch := .closing }
  | .sweeping (name :: names) => some { s.cancelUnsettled name with watch := .sweeping names }
  | _ => none

/-- Closes the timer, which first carries its last action to the end. -/
def close (s : System) : Option System :=
  if s.watch = .closing && !s.tasks.any Task.isExpiring then
    let watch : Watch :=
      if s.phase = .completed then .reporting s.settlement.ledger else .over .aborted
    some { s with timerOpen := false, watch }
  else none

/-- The state after an action, if the action is possible. -/
def step (s : System) (action : Action) : Option System :=
  match action with
  | .submit name | .schedule name | .take name | .check name | .equip name _ | .call name
  | .reply name _ | .time name _ | .fire name | .advance _ name _ | .cancel name => do
    s.stepTask (← s.task? name) action
  | .launch => s.launch
  | .requestAbort =>
    if s.watch = .absent then none
    else some { s with abortRequested := true, abortSignals := s.abortSignals + 1 }
  | .signalAbort =>
    if s.abortSignals = 0 || s.phaseLocked then none
    else some { s.tell with abortSignals := s.abortSignals - 1 }
  | .lock => if s.watch = .outside then some { s with watch := .locked } else none
  | .testAbort =>
    if s.watch ≠ .locked then none
    else if s.abortRequested then some (s.decide .aborted)
    else some { s with watch := .unaborted }
  | .testComplete =>
    if s.watch ≠ .unaborted then none
    else if s.settlement.ledger.isComplete then some (s.decide .completed)
    else some { s with watch := .incomplete }
  | .giveUp => if s.watch = .incomplete then some (s.decide .aborted) else none
  | .sleep => if s.watch = .incomplete then some { s with watch := .asleep false } else none
  | .wake => if s.watch = .asleep true then some { s with watch := .outside } else none
  | .stir => if s.watch = .asleep false then some { s with watch := .outside } else none
  | .sweep => s.sweep
  | .close => s.close
  | .complete panics =>
    match s.watch with
    | .reporting ledger =>
      let ending : Ending := if panics then .panicked else .completed ledger
      some { s with completions := s.completions ++ [ledger], watch := .over ending }
    | _ => none

def steps (s : System) (actions : List Action) : Option System :=
  actions.foldlM step s

end System

end ClassBatch.Batch
