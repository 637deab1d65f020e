import ClassBatch.Batch.Clock
import ClassBatch.Batch.System

/-!
The plain course of a batch: every task is submitted, the tasks are worked on one after another in
the order of their names, and no timeout comes in between. A backend answers from a state that its
calls hand on.
-/

namespace ClassBatch.Batch

variable {σ : Type}

structure Backend (σ : Type) where
  fresh : Bool
  create : Nat → σ → Except DecompileError Unit × σ
  call : Nat → String → σ → Option Reply × σ
  drop : Nat → σ → σ := fun _ state => state

structure Callbacks where
  reportPanics : Nat → Bool := fun _ => false
  completePanics : Bool := false

namespace System

def perform (s : System) (action : Action) : System :=
  (s.step action).getD s

def performAll (s : System) (actions : List Action) : System :=
  actions.foldl perform s

def settle (s : System) (callbacks : Callbacks) (name : String) : System :=
  (List.replicate 7 ()).foldl (fun s _ =>
    let panics := callbacks.reportPanics s.settlement.ledger.completed
    s.perform (.advance .worker name panics)) (s.perform (.time name (Duration.ofSeconds 0)))

def workOf (s : System) (name : String) : Option Work :=
  (s.task? name).map Task.work

def dismiss (b : Backend σ) (s : System) (number : Nat) (state : σ) : σ :=
  if s.fresh then b.drop number state else state

def serve (b : Backend σ) (callbacks : Callbacks) (name : String) (s : System) (state : σ) :
    System × σ :=
  match s.workOf name with
  | some (.equipped number) =>
    let (reply, state) := b.call number name state
    let s := s.perform (.call name)
    match reply with
    | some reply =>
      ((s.perform (.reply name reply)).settle callbacks name, s.dismiss b number state)
    | none => (s, state)
  | _ => (s.settle callbacks name, state)

def work (b : Backend σ) (callbacks : Callbacks) (s : System) (state : σ) (name : String) :
    System × σ :=
  let s := s.performAll [.take name, .check name]
  if s.workOf name = some .checked then
    if s.fresh then
      let (creation, state) := b.create s.created state
      let creation := match creation with
        | .ok _ => Creation.made
        | .error cause => .refused cause
      serve b callbacks name (s.perform (.equip name creation)) state
    else serve b callbacks name (s.perform (.equip name .made)) state
  else (s, state)

def names (s : System) : List String :=
  s.tasks.map Task.name

def watchOnce (s : System) : System :=
  s.performAll [.wake, .lock, .testAbort, .testComplete, .sleep]

def windUp (callbacks : Callbacks) (s : System) : System :=
  let s := s.performAll (List.replicate (s.tasks.length + 1) .sweep)
  s.performAll [.close, .complete callbacks.completePanics]

def workAll (b : Backend σ) (callbacks : Callbacks) (s : System) (state : σ) : System × σ :=
  let s := s.performAll (s.names.flatMap fun name => [.submit name, .schedule name])
  let s := (s.perform .launch).watchOnce
  let (s, state) := s.names.foldl (fun (s, state) name => s.work b callbacks state name) (s, state)
  (s.watchOnce, state)

def waiting (s : System) : List String :=
  s.tasks.filterMap fun t => match t.work with
    | .calling _ => some t.name
    | _ => none

def cancelledCalls (s : System) : List String :=
  s.waiting.filter fun name => (s.task? name).any Task.cancelled

def relent (b : Backend σ) (callbacks : Callbacks) (s : System) (state : σ) (name : String) :
    System × σ :=
  match s.workOf name with
  | some (.calling number) =>
    ((s.perform (.reply name (.error (.cancelled name)))).settle callbacks name,
      s.dismiss b number state)
  | _ => (s, state)

def release (b : Backend σ) (callbacks : Callbacks) (s : System) (state : σ) : System × σ :=
  let (s, state) :=
    s.cancelledCalls.foldl (fun (s, state) name => s.relent b callbacks state name) (s, state)
  (s.performAll (s.names.flatMap fun name => [.take name, .check name]), state)

end System

structure Course where
  worked : System
  ending : System
  cancelled : Nat

inductive StartError
  | batch (cause : BatchError)
  | clock
deriving DecidableEq, Repr

namespace Course

/-- The course of a batch over some names, all of them submitted at one reading of the clock. An abort
comes when nothing more can be worked on. The backend made first serves the whole batch, unless each
task needs its own; then it is given up once all are submitted. -/
def run (b : Backend σ) (config : Config) (callbacks : Callbacks) (abort : Bool) (now : Nat)
    (names : List String) (state : σ) : Except StartError Course × σ :=
  match b.create 0 state with
  | (.error cause, state) => (.error (.batch (.backend cause)), state)
  | (.ok _, state) =>
    let start := System.initial config b.fresh names
    let state := start.dismiss b 0 state
    match deadlines? config.timeout ((Names.sorted names).map fun _ => now) with
    | none => (.error .clock, state)
    | some _ =>
      let (worked, state) := start.workAll b callbacks state
      let s := if abort then (worked.performAll [.requestAbort, .signalAbort]).watchOnce else worked
      let s := s.windUp callbacks
      let (ending, state) := s.release b callbacks state
      (.ok ⟨worked, ending, s.cancelledCalls.length⟩, state)

end Course

end ClassBatch.Batch
