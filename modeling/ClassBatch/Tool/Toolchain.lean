import ClassBatch.CommandLine.Invocation
import ClassBatch.Text.Blank
import ClassBatch.Tool.Process

/-!
Where the tools of a batch are. A path on the command line comes first, then one in the environment,
then the place for tools in the data directory; CFR is downloaded there if it is missing.
-/

namespace ClassBatch.Tool

open CommandLine Files
open Text (Bytes)

structure Environment where
  bindings : List (String × String) := []
  accountHome : String

def Environment.lookup (env : Environment) (name : String) : Option String :=
  env.bindings.lookup name

structure Toolchain where
  java : String
  cfrJar : Option String
  fernflowerJar : Option String
deriving DecidableEq, Repr

inductive ToolError
  | noDirectory (path : String)
  | noCurl
  | noDownload (status : ExitStatus)
  | noFernflower (path : String)
  | unresolved (decompiler : Decompiler)
deriving DecidableEq, Repr

def ToolError.message : ToolError → String
  | noDirectory path => "Failed to create directory: " ++ path
  | noCurl =>
    "Failed to execute curl (ensure curl is installed, or use --cfr to specify cfr.jar)"
  | noDownload status =>
    "Failed to download CFR (exit: " ++ status.message ++
      "). You can use --cfr to specify local cfr.jar"
  | noFernflower path =>
    "fernflower.jar not found at " ++ path ++
      ". Use --fernflower or FERNFLOWER_JAR to point at it"
  | unresolved .cfr => "CFR backend selected but no cfr.jar was resolved"
  | unresolved .fernflower => "Fernflower backend selected but no fernflower.jar was resolved"

namespace Toolchain

def javaPath (tools : ToolPaths) (env : Environment) : String :=
  match tools.java, env.lookup "BATCH_DECOMPILE_JAVA" with
  | some path, _ => path
  | none, some path => if path.toList.all Text.isBlank then "java" else path
  | none, none => "java"

def home (env : Environment) : String :=
  match env.lookup "HOME" with
  | some path => if path.isEmpty then env.accountHome else path
  | none => env.accountHome

def dataDir (env : Environment) : String :=
  let usual := Path.join (home env) ".local/share"
  match env.lookup "XDG_DATA_HOME" with
  | some path => if Path.isAbsolute path then path else usual
  | none => usual

def toolsDir (env : Environment) : String :=
  Path.join (Path.join (dataDir env) "batch-decompile") "tools"

def defaultCfr (env : Environment) : String :=
  Path.join (toolsDir env) "cfr.jar"

def defaultFernflower (env : Environment) : String :=
  Path.join (toolsDir env) "fernflower.jar"

def cfrAddress : String :=
  "https://github.com/leibnitz27/cfr/releases/download/0.152/cfr-0.152.jar"

structure Traces where
  disk : Disk
  stdout : Bytes := []
  stderr : Bytes := []

def Traces.notice (t : Traces) (line : String) : Traces :=
  { t with stderr := t.stderr ++ Text.encode (line ++ "\n") }

def curlRequest (target : String) : Request :=
  { program := "curl"
    arguments := ["-L", "--fail", "--silent", "--show-error", "-o", target, cfrAddress] }

/-- Downloads CFR to where it is missing. Whatever a failed download left at its target is removed. -/
def install (launcher : Launcher) (target : String) (t : Traces) :
    Except ToolError Unit × Traces :=
  let parent := (Path.parent? target).getD ""
  match t.disk.createDirs parent with
  | (some _, disk) => (.error (.noDirectory parent), { t with disk })
  | (none, disk) =>
    let t := { t with disk }.notice
      ("[batch-decompile] CFR not found, downloading to " ++ target)
    match launcher (curlRequest target) t.disk with
    | .refused _ | .stopped _ => (.error .noCurl, t)
    | .finished result disk =>
      let t := { t with
        disk, stdout := t.stdout ++ result.stdout, stderr := t.stderr ++ result.stderr }
      if result.status.isSuccess then (.ok (), t)
      else
        (.error (.noDownload result.status),
          { t with disk := (t.disk.removeFile target).toOption.getD t.disk })

def cfrPath (launcher : Launcher) (tools : ToolPaths) (env : Environment) (t : Traces) :
    Except ToolError String × Traces :=
  match tools.cfr.or (env.lookup "CFR_JAR") with
  | some path => (.ok path, t)
  | none =>
    let path := defaultCfr env
    if t.disk.has path then (.ok path, t)
    else
      let (installed, t) := install launcher path t
      (installed.map fun _ => path, t)

def fernflowerPath (tools : ToolPaths) (env : Environment) (d : Disk) : Except ToolError String :=
  match tools.fernflower.or (env.lookup "FERNFLOWER_JAR") with
  | some path => .ok path
  | none =>
    let path := defaultFernflower env
    if d.has path then .ok path else .error (.noFernflower path)

def resolve (launcher : Launcher) (tools : ToolPaths) (env : Environment) (wanted : Decompiler)
    (t : Traces) : Except ToolError Toolchain × Traces :=
  let java := javaPath tools env
  match wanted with
  | .cfr =>
    let (path, t) := cfrPath launcher tools env t
    (path.map fun path => ⟨java, some path, none⟩, t)
  | .fernflower =>
    ((fernflowerPath tools env t.disk).map fun path => ⟨java, none, some path⟩, t)

end Toolchain

end ClassBatch.Tool
