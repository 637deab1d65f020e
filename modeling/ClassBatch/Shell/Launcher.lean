import ClassBatch.Shell.Interpreter
import ClassBatch.Tool.Process

/-! Launching programs that are scripts, or that are found on every system. -/

namespace ClassBatch.Shell

open Files Tool

def Session.start (environment : List (String × String)) (limit : Option Nat) (d : Disk) : Session :=
  let bindings := ("PWD", Path.render d.here) :: environment.filter fun v => v.1 ≠ "PWD"
  { disk := d, bindings, exported := environment.map Prod.fst, limit }

def start (program : Program) (arguments : List String) (s : Session) : Option (Flow × Session) :=
  let next := run maxDepth
  match program with
  | .utility _ => some (Run.utility next program arguments s)
  | .script path source => do
    let (interpreter, options) ← Program.interpreter? source
    let found ← (Program.at_ s.disk interpreter).toOption
    let name := Utility.baseName interpreter
    let isShell := Program.isShell name || (name = "env" && options.all Program.isShell)
    match found with
    | .utility _ =>
      if isShell then
        let strict := options.any fun o => o.toList.head? = some '-' && o.toList.contains 'e'
        some (Run.whole next source
          { s with script := path, arguments, source, strict })
      else some (Run.utility next found (options ++ path :: arguments) s)
    | .script _ _ => none

def status (flow : Flow) (s : Session) : ExitStatus :=
  match flow with
  | .killed n => .signal n
  | _ => .code s.status

def launcher (environment : List (String × String)) : Launcher := fun request d =>
  let texts := request.program :: request.arguments
  if texts.any fun t => t.toList.contains '\x00' then .refused .badName
  else match Program.find d ((environment.lookup "PATH").getD "") request.program with
    | .error e => .refused e
    | .ok program =>
      match start program request.arguments (Session.start environment request.limit d) with
      | none => .refused .notFound
      | some (flow, s) =>
        if request.limit = some 0 then .stopped d
        else if flow = .late then .stopped { s.disk with here := d.here }
        else .finished ⟨status flow s, joined s.output, joined s.errors, s.clock⟩
          { s.disk with here := d.here }

end ClassBatch.Shell
