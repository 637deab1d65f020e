import ClassBatch.Files.Disk
import ClassBatch.Shell.Syntax

/-!
What a running script sees and changes. Time passes only while it sleeps, and past the limit the
script runs no further.
-/

namespace ClassBatch.Shell

open Files
open Text (Bytes)

inductive Stream
  | nothing
  | output
  | errors
  | capture
  | file (place : List String)
  | closed
deriving DecidableEq, Repr

inductive Flow
  | onward
  | leave
  | leaveFunction
  | leaveLoop (depth : Nat)
  | nextRound (depth : Nat)
  | killed (signal : Nat)
  | late
deriving DecidableEq, Repr

structure Session where
  disk : Disk
  bindings : List (String × String) := []
  exported : List String := []
  script : String := "sh"
  arguments : List String := []
  functions : List (String × Command) := []
  locals : List String := []
  loops : Nat := 0
  traps : List (Nat × String) := []
  status : Nat := 0
  clock : Nat := 0
  limit : Option Nat := none
  input : Bytes := []
  streams : List (Nat × Stream) := [(1, .output), (2, .errors)]
  output : List Bytes := []
  errors : List Bytes := []
  captured : List Bytes := []
  strict : Bool := false
  bound : Bool := false
  spreads : Bool := true
  asked : Bool := false
  source : List Char := []
  left : Nat := 0
  nested : Bool := false
  fault : Option String := none
  halted : Option Flow := none

def joined (chunks : List Bytes) : Bytes :=
  chunks.foldl (fun later chunk => chunk ++ later) []

namespace Session

def processNumber : Nat := 4242

def done (s : Session) (status : Nat) : Session :=
  { s with status }

def value? (s : Session) (name : String) : Option String :=
  match name.toList with
  | ['#'] => some (toString s.arguments.length)
  | ['?'] => some (toString s.status)
  | ['$'] => some (toString processNumber)
  | ['-'] => some (if s.strict then "e" else "")
  | ['0'] => some s.script
  | chars =>
    if !chars.isEmpty && chars.all Char.isDigit then
      s.arguments[chars.foldl (fun n c => 10 * n + (c.toNat - '0'.toNat)) 0 - 1]?
    else s.bindings.lookup name

def value (s : Session) (name : String) : String :=
  (s.value? name).getD ""

def setVariable (s : Session) (name value : String) : Session :=
  { s with bindings := (name, value) :: s.bindings.filter fun v => v.1 ≠ name }

def unsetVariable (s : Session) (name : String) : Session :=
  { s with bindings := s.bindings.filter fun v => v.1 ≠ name }

def export_ (s : Session) (name : String) : Session :=
  if s.exported.contains name then s else { s with exported := name :: s.exported }

def environment (s : Session) : List (String × String) :=
  s.bindings.filter fun v => s.exported.contains v.1

def stream (s : Session) (number : Nat) : Stream :=
  (s.streams.lookup number).getD .closed

def setStream (s : Session) (number : Nat) (stream : Stream) : Session :=
  { s with streams := (number, stream) :: s.streams.filter fun other => other.1 ≠ number }

def write (s : Session) (number : Nat) (data : Bytes) : Session :=
  match s.stream number with
  | .nothing => s
  | .closed => s.done 1
  | .output => { s with output := data :: s.output }
  | .errors => { s with errors := data :: s.errors }
  | .capture => { s with captured := data :: s.captured }
  | .file place =>
    match s.disk.tree.append place data with
    | .ok tree => { s with disk := { s.disk with tree } }
    | .error _ => s

def line (s : Session) : Nat :=
  1 + (s.source.take (s.source.length - s.left)).count '\n'

def say (s : Session) (text : String) : Session :=
  s.write 1 (Text.encode text)

def complain (s : Session) (text : String) : Session :=
  s.write 2 (Text.encode (text ++ "\n"))

def blame (s : Session) (text : String) : Session :=
  s.complain (s.script ++ ": " ++ toString s.line ++ ": " ++ text)

def fails (s : Session) (text : String) : Session :=
  (s.complain text).done 1

def pass (s : Session) (millis : Nat) : Bool × Session :=
  let clock := s.clock + millis
  match s.limit with
  | some limit => if limit < clock then (true, { s with clock := limit }) else (false, { s with clock })
  | none => (false, { s with clock })

def capturing (run : Session → Flow × Session) (s : Session) : Flow × Bytes × Session :=
  let (flow, inner) := run ({ s with captured := [] }.setStream 1 .capture)
  (flow, joined inner.captured, { inner with captured := s.captured, streams := s.streams })

def returning (outer inner : Session) : Session :=
  { outer with
    disk := { inner.disk with here := outer.disk.here }
    output := inner.output, errors := inner.errors, captured := inner.captured
    clock := inner.clock, status := inner.status, input := inner.input }

end Session

end ClassBatch.Shell
