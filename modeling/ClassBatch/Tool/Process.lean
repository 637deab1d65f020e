import ClassBatch.Files.Disk

/-! Programs that are run outside, and how they end. -/

namespace ClassBatch.Tool

open Files
open Text (Bytes)

inductive ExitStatus
  | code (n : Nat)
  | signal (n : Nat) (dumped : Bool := false)
deriving DecidableEq, Repr

namespace ExitStatus

def isSuccess : ExitStatus → Bool
  | code 0 => true
  | _ => false

def signalNames : List (Nat × String) :=
  [(1, "SIGHUP"), (2, "SIGINT"), (3, "SIGQUIT"), (4, "SIGILL"), (5, "SIGTRAP"), (6, "SIGABRT"),
    (7, "SIGBUS"), (8, "SIGFPE"), (9, "SIGKILL"), (10, "SIGUSR1"), (11, "SIGSEGV"),
    (12, "SIGUSR2"), (13, "SIGPIPE"), (14, "SIGALRM"), (15, "SIGTERM"), (16, "SIGSTKFLT"),
    (17, "SIGCHLD"), (18, "SIGCONT"), (19, "SIGSTOP"), (20, "SIGTSTP"), (21, "SIGTTIN"),
    (22, "SIGTTOU"), (23, "SIGURG"), (24, "SIGXCPU"), (25, "SIGXFSZ"), (26, "SIGVTALRM"),
    (27, "SIGPROF"), (28, "SIGWINCH"), (29, "SIGIO"), (30, "SIGPWR"), (31, "SIGSYS")]

def message : ExitStatus → String
  | code n => "exit status: " ++ toString n
  | signal n dumped =>
    "signal: " ++ toString n ++ ((signalNames.lookup n).elim "" fun name => " (" ++ name ++ ")") ++
      if dumped then " (core dumped)" else ""

end ExitStatus

structure Request where
  program : String
  arguments : List String
  limit : Option Nat := none
deriving DecidableEq, Repr

structure Finished where
  status : ExitStatus
  stdout : Bytes
  stderr : Bytes
  millis : Nat
deriving Repr

/-- What comes of launching a program. The disk is what it left behind. -/
inductive Launch
  | refused (cause : FileError)
  | finished (result : Finished) (disk : Disk)
  | stopped (disk : Disk)

abbrev Launcher := Request → Disk → Launch

end ClassBatch.Tool
