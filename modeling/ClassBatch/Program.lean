import ClassBatch.Batch.Report
import ClassBatch.Bundle
import ClassBatch.Catalog
import ClassBatch.CommandLine.Parser
import ClassBatch.Tool.Factory

/-!
The whole program: it prints the classes of a jar, or decompiles some of them, reports on that and
saves their sources.
-/

namespace ClassBatch

open Batch CommandLine Files Tool
open Text (Bytes)

structure Host where
  environment : Environment
  parallelism : Nat
  now : Nat := 0
  launcher : Launcher
  scratch : Nat → String := Factory.scratchBelow "/tmp"
  room : Option Nat := none

namespace Program

inductive Failure
  | listing (jar : String) (cause : CatalogError)
  | pattern (cause : PatternError)
  | selection (cause : PatternError)
  | noneMatched (jar : String)
  | tool (cause : ToolError)
  | batch (cause : BatchError)
  | saving (path : String) (cause : SaveError)
deriving DecidableEq, Repr

def Failure.message : Failure → String
  | listing jar _ => "Failed to list classes of " ++ jar
  | pattern cause => cause.message
  | selection _ => "Invalid class selection"
  | noneMatched jar => "No classes matched in " ++ jar
  | tool cause => cause.message
  | batch _ => "Batch decompile did not complete"
  | saving path _ => "Failed to save results to " ++ path

inductive Ending
  | done
  | failed (cause : Failure)
  | usage (cause : UsageError)
  | panicked
deriving DecidableEq, Repr

def Ending.exitCode : Ending → Nat
  | done => 0
  | failed _ => 1
  | usage cause => cause.exitCode
  | panicked => 101

def Ending.ofExcept : Except Failure Unit → Ending
  | .ok () => done
  | .error cause => failed cause

structure Result where
  ending : Ending
  stdout : Bytes
  stderr : Bytes
  disk : Disk

def selectClasses (d : Disk) (jar : String) (p : Pattern) : Except Failure (List String) := do
  let names ← (Catalog.list d jar).mapError (.listing jar)
  (p.select names).mapError .pattern

def listed (d : Disk) (jar : String) (pattern : Option String) : Except Failure (List String) := do
  let p ← ((pattern.map Pattern.parse).getD (.ok .all)).mapError .pattern
  selectClasses d jar p

def wanted (d : Disk) (jar : String) (selection : Selection) : Except Failure (List String) := do
  let p ← selection.toPattern.mapError .selection
  match ← selectClasses d jar p with
  | [] => .error (.noneMatched jar)
  | names => return names

def lines (texts : List String) : Bytes :=
  texts.flatMap fun text => Text.encode (text ++ "\n")

/-- What is printed of a text, and how the program goes on: where a part of it is refused it panics. -/
def print (room : Option Nat) (text : Bytes) (ending : Ending) : Bytes × Ending :=
  match room with
  | some n => if n < text.length then (text.take n, .panicked) else (text, ending)
  | none => (text, ending)

def list (room : Option Nat) (jar : String) (pattern : Option String) (d : Disk) : Result :=
  match listed d jar pattern with
  | .ok names =>
    let (printed, ending) := print room (lines names) .done
    ⟨ending, printed, [], d⟩
  | .error cause => ⟨.failed cause, [], [], d⟩

def saveTo (d : Disk) (l : Ledger) : Option String → Except Failure (Option Saved) × Disk
  | none => (.ok none, d)
  | some path =>
    let (saved, d) := Bundle.save d l.sources path
    ((saved.map some).mapError (.saving path), d)

def conclude (room : Option Nat) (l : Ledger) (elapsed : Duration) (output : Option String)
    (t : Toolchain.Traces) : Result :=
  let (saved, disk) := saveTo t.disk l output
  let path := saved.toOption.join.map Saved.path
  let report := { l.report elapsed with output := path }
  let (printed, ending) := print room (lines [report.render]) (.ofExcept (saved.map fun _ => ()))
  ⟨ending, t.stdout ++ printed, t.stderr, disk⟩

def progressLine (p : Progress) : String :=
  "[batch-decompile] " ++ p.render

def runBatch (host : Host) (factory : Factory) (config : Config) (names : List String)
    (output : Option String) (t : Toolchain.Traces) : Result :=
  let backend := factory.backend host.scratch host.launcher
  match Course.run backend config {} false host.now names t.disk with
  | (.error (.batch cause), disk) => ⟨.failed (.batch cause), t.stdout, t.stderr, disk⟩
  | (.error .clock, disk) => ⟨.panicked, t.stdout, t.stderr, disk⟩
  | (.ok course, disk) =>
    let t := { t with disk, stderr := t.stderr ++ lines (course.ending.reports.map progressLine) }
    match course.ending.watch with
    | .over (.completed l) => conclude host.room l (Duration.ofSeconds 0) output t
    | .over .panicked => ⟨.panicked, t.stdout, t.stderr, t.disk⟩
    | _ => ⟨.failed (.batch .aborted), t.stdout, t.stderr, t.disk⟩

def decompile (host : Host) (tools : ToolPaths) (jar : String) (selection : Selection)
    (config : Config) (decompiler : Decompiler) (output : Option String) (d : Disk) : Result :=
  match wanted d jar selection with
  | .error cause => ⟨.failed cause, [], [], d⟩
  | .ok names =>
    match Toolchain.resolve host.launcher tools host.environment decompiler { disk := d } with
    | (.error cause, t) => ⟨.failed (.tool cause), t.stdout, t.stderr, t.disk⟩
    | (.ok toolchain, t) =>
      match Factory.make decompiler toolchain jar with
      | .error cause => ⟨.failed (.tool cause), t.stdout, t.stderr, t.disk⟩
      | .ok factory => runBatch host factory config names output t

def run (host : Host) (words : List String) (d : Disk) : Result :=
  match CommandLine.parse words with
  | .error cause => ⟨.usage cause, [], [], d⟩
  | .ok invocation =>
    match invocation.command with
    | .list jar pattern => list host.room jar pattern d
    | .decompile jar selection threads timeout decompiler output =>
      let config := Config.ofSeconds host.parallelism threads timeout
      decompile host invocation.tools jar selection config decompiler output d

end Program

end ClassBatch
