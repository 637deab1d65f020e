import ClassBatch.Error
import ClassBatch.Text.Blank
import ClassBatch.Tool.Process

/-!
Running Java. While the program runs it is looked at again and again, and its end counts before a
cancellation that is seen in the same round. Before the answer is given the program is reaped and its
streams are read to their ends.
-/

namespace ClassBatch.Tool

open Files

namespace Java

inductive Glance
  | running
  | exited (status : ExitStatus)
  | failed (reason : String)
deriving DecidableEq, Repr

structure Round where
  glance : Glance
  cancelled : Bool
deriving DecidableEq, Repr

inductive Verdict
  | exited (status : ExitStatus)
  | failed (reason : String)
  | cancelled
deriving DecidableEq, Repr

inductive Act
  | look
  | kill
  | reap
  | joinStdout
  | joinStderr
deriving DecidableEq, Repr

def abandon : List Act :=
  [.kill, .reap, .joinStdout, .joinStderr]

/-- Goes through rounds up to the first that decides. -/
def watch : List Round → List Act × Option Verdict
  | [] => ([], none)
  | ⟨.exited status, _⟩ :: _ => ([.look, .joinStdout, .joinStderr], some (.exited status))
  | ⟨.failed reason, _⟩ :: _ => (.look :: abandon, some (.failed reason))
  | ⟨.running, true⟩ :: _ => (.look :: abandon, some .cancelled)
  | ⟨.running, false⟩ :: rest => ((watch rest).1.cons .look, (watch rest).2)

def interval : Nat := 20

def roundAt (millis : Nat) : Nat :=
  (millis + interval - 1) / interval

def rounds (ending : Option (ExitStatus × Nat)) (cancelled : Option Nat) : List Round :=
  let last := max (ending.elim 0 fun e => e.2 / interval + 1) (cancelled.elim 0 roundAt)
  (List.range (last + 1)).map fun n =>
    let glance := match ending with
      | some (status, millis) => if millis < n * interval then Glance.exited status else .running
      | none => .running
    ⟨glance, cancelled.any (· ≤ n * interval)⟩

structure Output where
  status : ExitStatus
  stdout : String
  stderr : String
deriving DecidableEq, Repr

def run (launcher : Launcher) (program : String) (arguments : List String)
    (cancelled : Option Nat) (label : String) (d : Disk) : Except DecompileError Output × Disk :=
  match launcher ⟨program, arguments, cancelled.map fun c => interval * roundAt c⟩ d with
  | .refused _ => (.error (.launch program), d)
  | .stopped d => (.error (.cancelled label), d)
  | .finished result d =>
    match (watch (rounds (some (result.status, result.millis)) cancelled)).2 with
    | some (.exited status) =>
      (.ok ⟨status, Text.decodeLossy result.stdout, Text.decodeLossy result.stderr⟩, d)
    | some (.failed reason) => (.error (.io reason), d)
    | some .cancelled | none => (.error (.cancelled label), d)

def Output.checked (o : Output) : Except DecompileError String :=
  if o.status.isSuccess then .ok o.stdout
  else .error (.exit o.status.message (Text.trim o.stderr))

end Java

end ClassBatch.Tool
