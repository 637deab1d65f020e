import ClassBatch.Program
import ClassBatch.Shell.Launcher

/-!
The command line. The files that a run may need are read beforehand, and what it changes is written
back at its end; the run itself is a function of both.
-/

namespace ClassBatch.Main

open CommandLine Files Tool
open Text (Bytes)

def environmentNames : List String :=
  ["PATH", "HOME", "XDG_DATA_HOME", "BATCH_DECOMPILE_JAVA", "CFR_JAR", "FERNFLOWER_JAR",
    "TMPDIR"]

def readEnvironment : IO Environment := do
  let mut bindings := []
  for name in environmentNames do
    if let some value ← IO.getEnv name then
      bindings := (name, value) :: bindings
  return ⟨bindings, "/root"⟩

def temporary (env : Environment) : String :=
  (env.lookup "TMPDIR").getD "/tmp"

def programPaths (env : Environment) (name : String) : List String :=
  if name.toList.contains '/' then [name]
  else (Text.splitAll (· = ':') ((env.lookup "PATH").getD "").toList).map fun place =>
    Path.join (String.ofList place) name

def neededPaths (env : Environment) (words : List String) : List String :=
  match CommandLine.parse words with
  | .error _ => []
  | .ok invocation =>
    match invocation.command with
    | .list jar _ => [jar]
    | .decompile jar _ _ _ _ output =>
      jar :: output.toList ++ programPaths env (Toolchain.javaPath invocation.tools env) ++
        programPaths env "curl" ++
        [Toolchain.defaultCfr env, Toolchain.defaultFernflower env]

def load (d : Disk) (path : String) : IO Disk := do
  try
    let content ← IO.FS.readBinFile path
    let (_, d) := d.createDirs ((Path.parent? path).getD "")
    let written := d.write path content.toList
    match written, d.locate path with
    | .ok d, .ok place => return { d with tree := (d.tree.setExecutable place).toOption.getD d.tree }
    | _, _ => return d
  catch _ => return d

def store (before after : Disk) : IO Unit := do
  let kept := after.tree.listing []
  for path in kept do
    if let .ok content := after.read ("/" ++ path) then
      if (before.read ("/" ++ path)).toOption ≠ some content then
        if let some parent := Path.parent? ("/" ++ path) then
          IO.FS.createDirAll parent
        IO.FS.writeBinFile ("/" ++ path) ⟨content.toArray⟩
  for path in before.tree.listing [] do
    unless path.endsWith "/" || kept.contains path do
      IO.FS.removeFile ("/" ++ path)

def run (words : List String) : IO UInt32 := do
  let env ← readEnvironment
  let here := Path.components (toString (← IO.currentDir)).toList
  let place := here.filterMap fun
    | .normal name => some (String.ofList name)
    | _ => none
  let start : Disk := ⟨Tree.empty, place⟩
  let start := (start.createDirs (Path.render place)).2
  let start := (start.createDirs (temporary env)).2
  let d ← (neededPaths env words).foldlM load start
  let host : Host := {
    environment := env
    parallelism := 1
    launcher := Shell.launcher env.bindings
    scratch := Factory.scratchBelow (temporary env) }
  let result := Program.run host words d
  store d result.disk
  (← IO.getStdout).write ⟨result.stdout.toArray⟩
  (← IO.getStderr).write ⟨result.stderr.toArray⟩
  if let .failed cause := result.ending then
    IO.eprintln ("Error: " ++ cause.message)
  return UInt32.ofNat result.ending.exitCode

end ClassBatch.Main

def main (words : List String) : IO UInt32 :=
  ClassBatch.Main.run words
