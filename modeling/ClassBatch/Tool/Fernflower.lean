import ClassBatch.Catalog
import ClassBatch.ClassName
import ClassBatch.Tool.Java

/-!
Decompiling with Fernflower, which reads class files from one directory and writes sources to
another. The family of the class is put into the first, and the source is searched in the second; both
are made anew for each class.
-/

namespace ClassBatch.Tool

open Files
open Text (Bytes)

structure Fernflower where
  java : String
  fernflowerJar : String
  classJar : String
  scratch : String
deriving DecidableEq, Repr

namespace Fernflower

def input (t : Fernflower) : String :=
  Path.join t.scratch "in"

def output (t : Fernflower) : String :=
  Path.join t.scratch "out"

def arguments (t : Fernflower) : List String :=
  ["-jar", t.fernflowerJar, "-dgs=1", t.input, t.output]

def ioError (e : FileError) : DecompileError :=
  .io e.message

def resetDir (path : String) (d : Disk) : Except DecompileError Unit × Disk :=
  match d.removeDir path with
  | (none, d) | (some .notFound, d) =>
    match d.createDirs path with
    | (some e, d) => (.error (ioError e), d)
    | (none, d) => (.ok (), d)
  | (some e, d) => (.error (ioError e), d)

def isWithin (root target : String) : Bool :=
  match Path.below? (Path.components root.toList) (Path.components target.toList) with
  | some rest => rest.all Catalog.isNormal
  | none => false

def writeMember (dir : String) (member : String × Bytes) (d : Disk) :
    Except DecompileError Unit × Disk :=
  let target := Path.join dir member.1
  if !isWithin dir target then
    (.error (.backend ("jar entry " ++ member.1 ++ " resolves outside the scratch directory")), d)
  else
    match d.createDirs ((Path.parent? target).getD "") with
    | (some e, d) => (.error (ioError e), d)
    | (none, d) =>
      match d.write target member.2 with
      | .ok d => (.ok (), d)
      | .error e => (.error (ioError e), d)

def writeFamily (dir : String) :
    List (String × Bytes) → Disk → Except DecompileError Unit × Disk
  | [], d => (.ok (), d)
  | member :: rest, d =>
    match writeMember dir member d with
    | (.ok (), d) => writeFamily dir rest d
    | (.error e, d) => (.error e, d)

def familyError (e : CatalogError) : DecompileError :=
  match e.panic? with
  | some reason => .panicked reason
  | none => .backend e.chain

def prepare (t : Fernflower) (name : String) (d : Disk) : Except DecompileError Unit × Disk :=
  match resetDir t.input d with
  | (.error e, d) => (.error e, d)
  | (.ok (), d) =>
    match resetDir t.output d with
    | (.error e, d) => (.error e, d)
    | (.ok (), d) =>
      match Catalog.readFamily d t.classJar name with
      | .error e => (.error (familyError e), d)
      | .ok [] => (.error (.classNotFound name), d)
      | .ok family => writeFamily t.input family d

def readSource (t : Fernflower) (name : String) (d : Disk) : Except DecompileError String := do
  match d.node t.output with
  | .error e => .error (ioError e)
  | .ok (.file ..) => .error (ioError .notDirectory)
  | .ok node =>
    match node.search (ClassName.simple name ++ ".java") with
    | none => .error (.noOutput name)
    | some place =>
      match node.find place with
      | .ok (.file content _) =>
        match Text.decode? content with
        | some text => return text
        | none => .error (ioError .notText)
      | .ok (.dir ..) => .error (ioError .isDirectory)
      | .error e => .error (ioError e)

def decompile (t : Fernflower) (launcher : Launcher) (cancelled : Option Nat) (name : String)
    (d : Disk) : Except DecompileError String × Disk :=
  match t.prepare name d with
  | (.error e, d) => (.error e, d)
  | (.ok (), d) =>
    let (output, d) := Java.run launcher t.java t.arguments cancelled name d
    (output >>= Java.Output.checked >>= fun _ => t.readSource name d, d)

end Fernflower

end ClassBatch.Tool
