import ClassBatch.Batch.Course
import ClassBatch.Tool.Cfr
import ClassBatch.Tool.Fernflower
import ClassBatch.Tool.Toolchain

/-! Decompilers as the backends of a batch. -/

namespace ClassBatch.Tool

open Batch Files

inductive Factory
  | cfr (tool : Cfr)
  | fernflower (java fernflowerJar classJar : String)
deriving DecidableEq, Repr

namespace Factory

def make (wanted : Decompiler) (tools : Toolchain) (classJar : String) :
    Except ToolError Factory :=
  match wanted with
  | .cfr =>
    match tools.cfrJar with
    | some cfrJar => .ok (.cfr ⟨tools.java, cfrJar, classJar⟩)
    | none => .error (.unresolved .cfr)
  | .fernflower =>
    match tools.fernflowerJar with
    | some jar => .ok (.fernflower tools.java jar classJar)
    | none => .error (.unresolved .fernflower)

def fresh : Factory → Bool
  | cfr _ => false
  | fernflower .. => true

def scratchBelow (base : String) (number : Nat) : String :=
  let digits := Nat.toDigits 36 number
  Path.join base ("batch-decompile-fernflower-" ++
    String.ofList (List.replicate (6 - digits.length) '0' ++ digits))

def create (f : Factory) (scratch : String) (d : Disk) : Except DecompileError Unit × Disk :=
  match f with
  | cfr _ => (.ok (), d)
  | fernflower .. =>
    match d.createDir scratch with
    | .ok d => (.ok (), d)
    | .error e => (.error (.io (e.message ++ " at path \"" ++ scratch ++ "\"")), d)

def decompile (f : Factory) (scratch : String) (launcher : Launcher) (cancelled : Option Nat)
    (name : String) (d : Disk) : Except DecompileError String × Disk :=
  match f with
  | cfr tool => tool.decompile launcher cancelled name d
  | fernflower java jar classJar =>
    ({ java, fernflowerJar := jar, classJar, scratch } : Fernflower).decompile
      launcher cancelled name d

def drop (f : Factory) (scratch : String) (d : Disk) : Disk :=
  match f with
  | cfr _ => d
  | fernflower .. => (d.removeDir scratch).2

def reply : Except DecompileError String → Reply
  | .ok text => .source text
  | .error cause => .error cause

def backend (f : Factory) (scratch : Nat → String) (launcher : Launcher) : Backend Disk where
  fresh := f.fresh
  create number := f.create (scratch number)
  call number name d :=
    let (result, d) := f.decompile (scratch number) launcher none name d
    (some (reply result), d)
  drop number := f.drop (scratch number)

end Factory

end ClassBatch.Tool
