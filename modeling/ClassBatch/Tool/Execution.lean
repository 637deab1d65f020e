import ClassBatch.Tool.Java

/-!
Java at work, one atomic step after another. There are the program and whoever else holds its
streams, a reader for each of the two, someone who may cancel the task at any time, and the one who
looks at the program round by round and answers in the end.
-/

namespace ClassBatch.Tool.Java

open Text (Bytes)

/-- A stream of the program with its reader: what was ever written, what of it is not yet read, what
the reader has so far, whether anyone can still write, whether the reader has met the end, and what
it has handed over. -/
structure Pipe where
  written : Bytes := []
  unread : Bytes := []
  held : Bytes := []
  isOpen : Bool := true
  isOver : Bool := false
  joined : Option Bytes := none
deriving DecidableEq, Repr

namespace Pipe

inductive Flow
  | write (data : Bytes)
  | close
  | read (count : Nat)
  | finish
deriving DecidableEq, Repr

def step (p : Pipe) : Flow → Option Pipe
  | .write data =>
    if p.isOpen then some { p with written := p.written ++ data, unread := p.unread ++ data }
    else none
  | .close => some { p with isOpen := false }
  | .read count =>
    if count ≤ p.unread.length then
      some { p with unread := p.unread.drop count, held := p.held ++ p.unread.take count }
    else none
  | .finish => if !p.isOpen && p.unread.isEmpty then some { p with isOver := true } else none

def join (p : Pipe) : Option Pipe :=
  if p.isOver then some { p with joined := some p.held } else none

end Pipe

inductive Stream
  | out
  | err
deriving DecidableEq, Repr

inductive Life
  | running
  | ended (status : ExitStatus)
  | reaped
deriving DecidableEq, Repr

def Life.killed : Life → Life
  | running => ended (.signal 9)
  | life => life

def Verdict.rest : Verdict → List Act
  | exited _ => [.joinStdout, .joinStderr]
  | failed _ | cancelled => abandon

def conclude (label : String) (stdout stderr : Bytes) : Verdict → Except DecompileError Output
  | .exited status => .ok ⟨status, Text.decodeLossy stdout, Text.decodeLossy stderr⟩
  | .failed reason => .error (.io reason)
  | .cancelled => .error (.cancelled label)

inductive Stand
  | looking
  | checking
  | closing (verdict : Verdict) (acts : List Act)
deriving DecidableEq, Repr

def Stand.verdict? : Stand → Option Verdict
  | looking | checking => none
  | closing verdict _ => some verdict

structure Execution where
  life : Life := .running
  pipe : Stream → Pipe := fun _ => {}
  cancelled : Bool := false
  stand : Stand := .looking
  rounds : List Round := []

namespace Execution

inductive Event
  | flow (stream : Stream) (flow : Pipe.Flow)
  | exit (status : ExitStatus)
  | cancel
  | look (fault : Option String)
  | check
  | act
deriving DecidableEq, Repr

def setPipe (s : Execution) (stream : Stream) (p : Pipe) : Execution :=
  { s with pipe := fun other => if other = stream then p else s.pipe other }

def decide (s : Execution) (glance : Glance) (verdict : Verdict) : Execution :=
  { s with
    stand := .closing verdict verdict.rest
    rounds := s.rounds ++ [⟨glance, s.cancelled⟩] }

def look (s : Execution) (fault : Option String) : Option Execution :=
  match fault, s.life with
  | some reason, _ => some (s.decide (.failed reason) (.failed reason))
  | none, .running => some { s with stand := .checking }
  | none, .ended status =>
    some ({ s with life := .reaped }.decide (.exited status) (.exited status))
  | none, .reaped => none

def check (s : Execution) : Execution :=
  if s.cancelled then s.decide .running .cancelled
  else { s with stand := .looking, rounds := s.rounds ++ [⟨.running, false⟩] }

def join (s : Execution) (stream : Stream) : Option Execution := do
  return s.setPipe stream (← (s.pipe stream).join)

def perform (s : Execution) : Act → Option Execution
  | .look => none
  | .kill => some { s with life := s.life.killed }
  | .reap => if s.life = .running then none else some { s with life := .reaped }
  | .joinStdout => s.join .out
  | .joinStderr => s.join .err

def step (s : Execution) : Event → Option Execution
  | .flow stream flow => do return s.setPipe stream (← (s.pipe stream).step flow)
  | .exit status => if s.life = .running then some { s with life := .ended status } else none
  | .cancel => some { s with cancelled := true }
  | .look fault => if s.stand = .looking then s.look fault else none
  | .check => if s.stand = .checking then some s.check else none
  | .act =>
    match s.stand with
    | .closing verdict (act :: acts) => do
      return { ← s.perform act with stand := .closing verdict acts }
    | _ => none

def steps (s : Execution) (events : List Event) : Option Execution :=
  events.foldlM step s

def answer? (label : String) (s : Execution) : Option (Except DecompileError Output) :=
  match s.stand with
  | .closing verdict [] => do
    return conclude label (← (s.pipe .out).joined) (← (s.pipe .err).joined) verdict
  | _ => none

end Execution

end ClassBatch.Tool.Java
