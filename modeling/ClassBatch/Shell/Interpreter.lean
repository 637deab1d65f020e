import ClassBatch.Shell.Expansion
import ClassBatch.Shell.Programs
import ClassBatch.Shell.Reader

/-!
Running scripts. Commands are run by a function whose fuel bounds how deep they are nested; loops
have a bound of their own on their rounds.
-/

namespace ClassBatch.Shell

open Files
open Text (Bytes)

abbrev Run := Command → Session → Flow × Session

namespace Run

def inline (run : Run) (source : List Char) (s : Session) : Flow × Session :=
  match Command.parse? source with
  | some c => run c (s.done 0)
  | none => (.leave, (s.blame "Syntax error").done 2)

def closing (run : Run) (flow : Flow) (s : Session) : Flow × Session :=
  match flow, s.traps.lookup 0 with
  | .killed _, _ | .late, _ | _, none => (flow, s)
  | _, some text =>
    match inline run text.toList { s with traps := [], nested := true } with
    | (.onward, after) => (.leave, after.done s.status)
    | ended => ended

def apart (run : Run) (c : Command) (s : Session) : Flow × Session :=
  let (flow, inner) := run c { s with traps := s.traps.filter fun t => t.2.isEmpty }
  let (flow, inner) := closing run flow inner
  let flow := match flow with
    | .killed _ | .late => flow
    | _ => .onward
  (flow, s.returning inner)

def output (run : Run) (source : List Char) (s : Session) : List Char × Session :=
  match Command.parse? source with
  | none => ([], Expansion.withFault s "Syntax error")
  | some c =>
    let (flow, data, inner) := { s with nested := true }.capturing (run.apart c)
    let inner := { inner with nested := s.nested }
    let text := ((Text.decodeLossy data).toList.reverse.dropWhile (· = '\n')).reverse
    let text := text.filter (· ≠ '\x00')
    (text, { inner with halted := if flow = .onward then s.halted else some flow })

def checked (s : Session) : Flow × Session :=
  match s.halted, s.fault with
  | some flow, _ => (flow, { s with halted := none })
  | none, some why => (.leave, ({ s with fault := none }.blame why).done 2)
  | none, none => (.onward, s)

def openWrite (append : Bool) (path : String) (s : Session) : Except String (Stream × Session) :=
  match path with
  | "/dev/null" => .ok (.nothing, s)
  | "/dev/stdout" => .ok (s.stream 1, s)
  | "/dev/stderr" => .ok (s.stream 2, s)
  | _ =>
    let opened := do
      let disk ← if append && s.disk.has path then pure s.disk else s.disk.write path []
      return (Stream.file (← disk.locate path), { s with disk })
    match opened with
    | .ok found => .ok found
    | .error .notFound => .error ("cannot create " ++ path ++ ": Directory nonexistent")
    | .error e => .error ("cannot create " ++ path ++ ": " ++ Utility.reason e)

def openRead (path : String) (s : Session) : Except String Bytes :=
  if path = "/dev/null" then .ok []
  else match s.disk.read path with
    | .ok data => .ok data
    | .error .notFound => .error ("cannot open " ++ path ++ ": No such file")
    | .error e => .error ("cannot open " ++ path ++ ": " ++ Utility.reason e)

def redirect (substitute : Expansion.Substitute) (r : Redirect) (s : Session) :
    Except (String × Session) Session :=
  let orElse {α : Type} (s : Session) : Except String α → Except (String × Session) α :=
    Except.mapError fun why => (why, s)
  match r.direction with
  | .read w => do
    let (path, s) := Expansion.text substitute w s
    return { s with input := ← orElse s (openRead path s) }
  | .write w => do
    let (path, s) := Expansion.text substitute w s
    let (stream, s) ← orElse s (openWrite false path s)
    return s.setStream r.stream stream
  | .append w => do
    let (path, s) := Expansion.text substitute w s
    let (stream, s) ← orElse s (openWrite true path s)
    return s.setStream r.stream stream
  | .copy w =>
    let (text, s) := Expansion.text substitute w s
    if text = "-" then .ok (s.setStream r.stream .closed)
    else match text.toList.all Char.isDigit, s.streams.lookup (Format.readCount text.toList).1 with
      | true, some stream => .ok (s.setStream r.stream stream)
      | _, _ => .error (text ++ ": Bad file descriptor", s)
  | .here w =>
    let (text, s) := Expansion.text substitute w s
    .ok { s with input := Text.encode text }

def redirectAll (substitute : Expansion.Substitute) :
    List Redirect → Session → Except (String × Session) Session
  | [], s => .ok s
  | r :: rest, s => do redirectAll substitute rest (← redirect substitute r s)

def feeds (rs : List Redirect) : Bool :=
  rs.any fun r => match r.direction with
    | .read _ | .here _ => true
    | _ => false

def under (substitute : Expansion.Substitute) (rs : List Redirect)
    (act : Session → Flow × Session) (s : Session) : Flow × Session :=
  match redirectAll substitute rs s with
  | .error (why, s') => (.onward, ({ s' with streams := s.streams }.blame why).done 2)
  | .ok inner =>
    let (flow, inner) := act inner
    (flow, { inner with streams := s.streams, input := if feeds rs then s.input else inner.input })

def ended (s : Session) : Flow × Session :=
  if s.strict && !s.asked && s.status ≠ 0 then (.leave, s) else (.onward, s)

def asking (run : Run) (c : Command) (s : Session) : Flow × Session :=
  let (flow, inner) := run c { s with asked := true }
  (flow, { inner with asked := s.asked })

def maxRounds : Nat := 100000

inductive Turn
  | again
  | stop (flow : Flow)

def turn : Flow → Turn
  | .onward => .again
  | .leaveLoop n => .stop (if n ≤ 1 then .onward else .leaveLoop (n - 1))
  | .nextRound n => if n ≤ 1 then .again else .stop (.nextRound (n - 1))
  | flow => .stop flow

def rounds (until_ : Bool) (condition body : Session → Flow × Session) :
    Nat → Nat → Session → Flow × Session
  | 0, _, s => (.late, s)
  | fuel + 1, last, s =>
    match condition s with
    | (.onward, s) =>
      if (s.status = 0) = until_ then (.onward, s.done last)
      else
        let (flow, s) := body s
        match turn flow with
        | .again => rounds until_ condition body fuel s.status s
        | .stop flow => (flow, s)
    | (flow, s) => (flow, s)

def roundsOver (name : String) (body : Session → Flow × Session) :
    List String → Session → Flow × Session
  | [], s => (.onward, s)
  | word :: rest, s =>
    let (flow, s) := body (s.setVariable name word)
    match turn flow with
    | .again => roundsOver name body rest s
    | .stop flow => (flow, s)

def sequence (run : Run) : List Command → Session → Flow × Session
  | [], s => (.onward, s)
  | c :: rest, s =>
    match run c s with
    | (.onward, s) => sequence run rest s
    | ended => ended

def stages (run : Run) : List Command → Session → Flow × Session
  | [], s => (.onward, s)
  | [c], s => run.apart c s
  | c :: rest, s =>
    match s.capturing (run.apart c) with
    | (.onward, data, s) => stages run rest { s with input := data }
    | (flow, _, s) => (flow, s)

def choose (substitute : Expansion.Substitute) (text : List Char) :
    List (List Word × Command) → Session → Option Command × Session
  | [], s => (none, s)
  | (patterns, body) :: rest, s =>
    let (found, s) := patterns.foldl (fun (found, s) w =>
      if found then (true, s)
      else
        let (wild, s) := Expansion.wildcards substitute w s
        (Wildcard.matchesAll wild text, s)) (false, s)
    if found then (some body, s) else choose substitute text rest s

end Run

inductive Program
  | script (path : String) (source : List Char)
  | utility (name : String)
deriving Repr

namespace Program

def systemPlaces : List String :=
  ["/bin", "/usr/bin"]

def ofSystem? (path : String) : Option Program :=
  let name := Utility.baseName path
  if systemPlaces.contains (Utility.dirName path) && Utility.isKnown name then some (.utility name)
  else none

def at_ (d : Disk) (path : String) : Except FileError Program :=
  match d.node path with
  | .ok (.file content true) => .ok (.script path (Text.decodeLossy content).toList)
  | .ok _ => .error .denied
  | .error e => (ofSystem? path).elim (.error e) .ok

def find (d : Disk) (searchPath : String) (name : String) : Except FileError Program :=
  if name.toList.contains '/' then at_ d name
  else if name.isEmpty then .error .notFound
  else
    let places := (Text.splitAll (· = ':') searchPath.toList).map String.ofList
    places.foldl (fun found place =>
      match found, at_ d (Path.join (if place.isEmpty then "." else place) name) with
      | .ok program, _ => .ok program
      | .error _, .ok program => .ok program
      | .error .denied, .error _ => .error .denied
      | .error _, .error e => .error (if e = .denied then .denied else .notFound))
      (.error .notFound)

def interpreter? (source : List Char) : Option (String × List String) :=
  match source with
  | '#' :: '!' :: rest =>
    let isBlank (c : Char) := c = ' ' || c = '\t'
    let line := (rest.takeWhile (· ≠ '\n')).dropWhile isBlank
    let path := line.takeWhile fun c => !isBlank c
    let argument := Text.trimBoth isBlank (line.drop path.length)
    some (String.ofList path, if argument.isEmpty then [] else [String.ofList argument])
  | _ => none

def isShell (name : String) : Bool :=
  name = "sh" || name = "dash" || name = "bash"

end Program

namespace Run

def signals : List (String × Nat) :=
  [("HUP", 1), ("INT", 2), ("QUIT", 3), ("ABRT", 6), ("KILL", 9), ("USR1", 10), ("SEGV", 11),
    ("USR2", 12), ("PIPE", 13), ("ALRM", 14), ("TERM", 15)]

def signal (text : String) : Nat :=
  match signals.lookup text with
  | some n => n
  | none =>
    match Text.afterStart? "SIG".toList text.toList with
    | some name => (signals.lookup (String.ofList name)).getD 0
    | none => (Format.readCount text.toList).1

def kill (run : Run) (args : List String) (s : Session) : Flow × Session :=
  let (n, targets) := match args with
    | "-s" :: name :: rest => (signal name, rest)
    | first :: rest =>
      match first.toList with
      | '-' :: name => (signal (String.ofList name), rest)
      | _ => (15, first :: rest)
    | [] => (15, [])
  if targets.contains (toString Session.processNumber) then
    if n = 0 then (.onward, s.done 0)
    else match if n = 9 then none else s.traps.lookup n with
      | some text =>
        let (flow, s) := inline run text.toList { s with nested := true }
        (flow, s.done 0)
      | none => (.killed n, s)
  else (.onward, (s.blame "kill: No such process").done 1)

def trap (args : List String) (s : Session) : Session :=
  let (action, names) := match args with
    | [name] => ("-", [name])
    | action :: names => (action, names)
    | [] => ("-", [])
  names.foldl (fun s name =>
    let known := if name = "EXIT" || name = "0" then some 0
      else (signals.lookup name).or ((Test.integer? name).map Int.toNat)
    match known with
    | some n =>
      let others := s.traps.filter fun t => t.1 ≠ n
      { s with traps := if action = "-" then others else (n, action) :: others }
    | none => s.fails ("trap: " ++ name ++ ": bad trap")) s

def sleep (args : List String) (s : Session) : Flow × Session :=
  match args.mapM Utility.millis? with
  | some times =>
    let (late, s) := s.pass (times.foldl (· + ·) 0)
    (if late then .late else .onward, s.done 0)
  | none => (.onward, s.fails ("sleep: invalid time interval '" ++ args.headD "" ++
      "'\nTry 'sleep --help' for more information."))

def switch (on : Bool) (letters : List Char) (s : Session) : Session :=
  letters.foldl (fun s c =>
    if c = 'e' then { s with strict := on }
    else if c = 'u' then { s with bound := on }
    else if c = 'f' then { s with spreads := !on }
    else s) s

def set : List String → Session → Session
  | [], s => s
  | "--" :: rest, s => { s with arguments := rest }
  | arg :: rest, s =>
    match arg.toList with
    | '-' :: letters => set rest (switch true letters s)
    | '+' :: letters => set rest (switch false letters s)
    | _ => { s with arguments := arg :: rest }

def splitAssignment (text : String) : String × Option String :=
  let name := text.toList.takeWhile (· ≠ '=')
  match text.toList.drop name.length with
  | _ :: value => (String.ofList name, some (String.ofList value))
  | [] => (text, none)

def export_ (args : List String) (s : Session) : Session :=
  args.foldl (fun s arg =>
    let (name, value) := splitAssignment arg
    (value.elim s (s.setVariable name)).export_ name) s

def assignFields (separators : List Char) : List String → List Char → Session → Session
  | [], _, s => s
  | [name], text, s =>
    s.setVariable name (String.ofList (Text.trimBoth separators.contains text))
  | name :: rest, text, s =>
    let text := text.dropWhile separators.contains
    let first := text.takeWhile fun c => !separators.contains c
    assignFields separators rest (text.drop first.length)
      (s.setVariable name (String.ofList first))

def read (args : List String) (s : Session) : Session :=
  let names := args.filter fun a => a.toList.head? ≠ some '-'
  let line := s.input.takeWhile (· ≠ 10)
  let rest := s.input.drop line.length
  let text := (Text.decodeLossy line).toList
  let text := if args.contains "-r" then text else text.filter (· ≠ '\x5c')
  let s := assignFields (Expansion.separators s) names text { s with input := rest.drop 1 }
  s.done (if rest.isEmpty then 1 else 0)

def counted (name : String) (usual : Nat) (args : List String) (s : Session)
    (act : Nat → Flow × Session) : Flow × Session :=
  match args with
  | [] => act usual
  | arg :: _ =>
    if arg.isEmpty || !arg.toList.all Char.isDigit then
      (.leave, (s.blame (name ++ ": Illegal number: " ++ arg)).done 2)
    else act (Format.readCount arg.toList).1

def shift (args : List String) (s : Session) : Flow × Session :=
  counted "shift" 1 args s fun n =>
    if n ≤ s.arguments.length then (.onward, { s with arguments := s.arguments.drop n })
    else (.leave, (s.blame "shift: can't shift that many").done 2)

def leaveLoops (name : String) (flow : Nat → Flow) (args : List String) (s : Session) :
    Flow × Session :=
  counted name 1 args s fun n =>
    if n = 0 then (.leave, (s.blame (name ++ ": Illegal number: 0")).done 2)
    else if s.loops = 0 then (.onward, s)
    else (flow (min n s.loops), s)

def cd (args : List String) (s : Session) : Session :=
  let path := args.head?.getD (s.value "HOME")
  let goal := if path = "-" then s.value "OLDPWD" else path
  match s.disk.node goal, s.disk.locate goal with
  | .ok (.dir ..), .ok place =>
    let before := s.value "PWD"
    let s := { s with disk := { s.disk with here := place } }
    let s := (s.setVariable "OLDPWD" before).setVariable "PWD" (Path.render place)
    if path = "-" then s.say (goal ++ "\n") else s
  | _, _ => (s.blame ("cd: can't cd to " ++ path)).done 2

def whole (run : Run) (source : List Char) (s : Session) : Flow × Session :=
  let (flow, s) := inline run source s
  closing run flow s

def deaths : List (Nat × String) :=
  [(1, "Hangup"), (3, "Quit"), (6, "Aborted"), (9, "Killed"), (11, "Segmentation fault"),
    (15, "Terminated")]

def script (run : Run) (name : String) (source : List Char) (args : List String) (s : Session) :
    Flow × Session :=
  let inner := { s with
    script := name, arguments := args, functions := [], status := 0, strict := false
    bound := false, asked := false, source, nested := false, bindings := s.environment
    locals := [], loops := 0, traps := s.traps.filter fun t => t.2.isEmpty }
  let (flow, inner) := whole run source inner
  let after := s.returning inner
  match flow with
  | .killed n =>
    let after := (deaths.lookup n).elim after after.complain
    (.onward, after.done (128 + n))
  | .late => (.late, after)
  | _ => (.onward, after)

def shell (run : Run) (args : List String) (s : Session) : Flow × Session :=
  match args with
  | "-c" :: text :: rest => script run (rest.headD "sh") text.toList rest.tail s
  | "-e" :: path :: rest => runFile true path rest
  | path :: rest => runFile false path rest
  | [] => script run "sh" (Text.decodeLossy s.input).toList [] { s with input := [] }
where
  runFile (strict : Bool) (path : String) (rest : List String) : Flow × Session :=
    match s.disk.read path with
    | .ok content =>
      let source := (Text.decodeLossy content).toList
      script run path ((if strict then "set -e; ".toList else []) ++ source) rest s
    | .error _ => (.onward, (s.complain ("sh: 0: cannot open " ++ path ++ ": No such file")).done 2)

def missing (label name : String) (e : FileError) (s : Session) : Session :=
  if e = .denied then (s.blame (label ++ name ++ ": Permission denied")).done 126
  else (s.blame (label ++ name ++ ": not found")).done 127

def located? (name : String) (s : Session) : Option String :=
  match Program.find s.disk (s.value "PATH") name with
  | .ok (.script path _) => some path
  | .ok (.utility name) => some ("/usr/bin/" ++ name)
  | .error _ => none

def which (names : List String) (s : Session) : Session :=
  names.foldl (fun s name =>
    match located? name s with
    | some path => s.say (path ++ "\n")
    | none => s.done 1) s

def launched (run : Run) (program : Program) (args : List String) (s : Session) : Flow × Session :=
  match program with
  | .utility name =>
    if name = "sleep" then sleep args s
    else if name = "which" then (.onward, which args (s.done 0))
    else if Program.isShell name then shell run args s
    else match Utility.table.lookup name with
      | some act => (.onward, act args (s.done 0))
      | none => (.onward, s.done 0)
  | .script path source =>
    match Program.interpreter? source with
    | some (interpreter, options) =>
      if Program.isShell (Utility.baseName interpreter) || Utility.baseName interpreter = "env" then
        let strict := options.any fun o => o.toList.contains 'e' && o.toList.head? = some '-'
        script run path ((if strict then "set -e; ".toList else []) ++ source) args s
      else match Utility.table.lookup (Utility.baseName interpreter) with
        | some act => (.onward, act (options ++ path :: args) (s.done 0))
        | none => (.onward, missing "" path .notFound s)
    | none => script run path source args s

def exec (run : Run) (command : List String) (s : Session) : Session :=
  match command with
  | [] => s
  | name :: args =>
    match Program.find s.disk (s.value "PATH") name with
    | .error e => (s.complain (name ++ ": " ++ Utility.reason e)).done 127
    | .ok program => (launched run program args s).2

def utility (run : Run) (program : Program) (args : List String) (s : Session) : Flow × Session :=
  match program with
  | .utility "find" => (.onward, Utility.find (exec run) args (s.done 0))
  | .utility "xargs" => (.onward, Utility.xargs (exec run) args (s.done 0))
  | program => launched run program args s

def program (run : Run) (label name : String) (args : List String) (s : Session) :
    Flow × Session :=
  match Program.find s.disk (s.value "PATH") name with
  | .error e => (.onward, missing label name e s)
  | .ok found => utility run found args s

def builtin? (run : Run) (name : String) (args : List String) (s : Session) :
    Option (Flow × Session) :=
  let plain (s : Session) : Option (Flow × Session) := some (.onward, s)
  match name with
  | ":" | "true" | "wait" | "umask" => plain (s.done 0)
  | "false" => plain (s.done 1)
  | "echo" => plain ((s.done 0).write 1 (Format.echo args))
  | "printf" => plain (Utility.printf args s)
  | "test" => plain (Test.run "test" args s)
  | "[" => plain (Test.bracket args s)
  | "cd" => plain (cd args (s.done 0))
  | "pwd" => plain ((s.done 0).say (Path.render s.disk.here ++ "\n"))
  | "exit" => some (counted name s.status args s fun n => (.leave, s.done (n % 256)))
  | "return" => some (counted name s.status args s fun n => (.leaveFunction, s.done (n % 256)))
  | "break" => some (leaveLoops name .leaveLoop args (s.done 0))
  | "continue" => some (leaveLoops name .nextRound args (s.done 0))
  | "shift" => some (shift args (s.done 0))
  | "set" => plain (set args (s.done 0))
  | "export" | "readonly" => plain (export_ (args.filter (· ≠ "-p")) (s.done 0))
  | "local" => plain (args.foldl (fun s arg =>
      let (name, value) := splitAssignment arg
      let s := { s with locals := name :: s.locals }
      value.elim s (s.setVariable name)) (s.done 0))
  | "unset" => plain (args.foldl Session.unsetVariable (s.done 0))
  | "read" => plain (read args s)
  | "kill" => some (kill run args s)
  | "trap" => plain (trap args (s.done 0))
  | "eval" => some (inline run (String.intercalate " " args).toList { s with nested := true })
  | "." =>
    match args with
    | path :: _ =>
      match s.disk.read path with
      | .ok content =>
        let (flow, s) := inline run (Text.decodeLossy content).toList s
        some (if flow = .leaveFunction then .onward else flow, s)
      | .error _ => some (.leave, (s.blame (".: cannot open " ++ path ++ ": No such file")).done 2)
    | [] => plain (s.done 0)
  | _ => none

def lending (assignments : List (String × String)) (act : Session → Flow × Session)
    (s : Session) : Flow × Session :=
  let inner := assignments.foldl (fun s (name, value) => (s.setVariable name value).export_ name) s
  let (flow, after) := act inner
  if assignments.isEmpty then (flow, after)
  else
    let after := assignments.foldl (fun after (name, _) =>
      match s.bindings.lookup name with
      | some value => after.setVariable name value
      | none => after.unsetVariable name) after
    (flow, { after with exported := s.exported })

def call (run : Run) (name : String) (args : List String) (s : Session) : Flow × Session :=
  match s.functions.lookup name with
  | some body =>
    let (flow, inner) := run body { s with arguments := args, locals := [], loops := 0 }
    let inner := inner.locals.foldl (fun inner name =>
      (s.bindings.lookup name).elim (inner.unsetVariable name) (inner.setVariable name)) inner
    (if flow = .leaveFunction then .onward else flow,
      { inner with arguments := s.arguments, locals := s.locals, loops := s.loops })
  | none =>
    match name, args with
    | "command", "-v" :: wanted :: _ =>
      match builtin? run wanted [] s, located? wanted s with
      | some _, _ => (.onward, (s.done 0).say (wanted ++ "\n"))
      | none, some path => (.onward, (s.done 0).say (path ++ "\n"))
      | none, none => (.onward, s.done 127)
    | "type", [wanted] =>
      match builtin? run wanted [] s, located? wanted s with
      | some _, _ => (.onward, (s.done 0).say (wanted ++ " is a shell builtin\n"))
      | none, some path => (.onward, (s.done 0).say (wanted ++ " is " ++ path ++ "\n"))
      | none, none => (.onward, ((s.done 0).say (wanted ++ ": not found\n")).done 127)
    | "command", name :: args => (builtin? run name args s).getD (program run "" name args s)
    | "exec", name :: args =>
      match program run "exec: " name args { s with traps := [] } with
      | (.onward, s) => (.leave, s)
      | ended => ended
    | "exec", [] => (.onward, s.done 0)
    | "env", args =>
      let given := args.takeWhile fun a => a.toList.contains '='
      let assignments := given.map fun a => ((splitAssignment a).1, (splitAssignment a).2.getD "")
      match args.drop given.length with
      | name :: args => lending assignments (program run "" name args) s
      | [] => (.onward, (lending assignments (fun s => (.onward, Utility.env (s.done 0))) s).2)
    | _, _ => (builtin? run name args s).getD (program run "" name args s)

def assignments (substitute : Expansion.Substitute) :
    List (String × Word) → Session → List (String × String) × Session
  | [], s => ([], s)
  | (name, w) :: rest, s =>
    let (value, s) := Expansion.text substitute w s
    let (more, s) := assignments substitute rest (s.setVariable name value)
    ((name, value) :: more, s)

def simple (run : Run) (given : List (String × Word)) (words : List Word)
    (redirects : List Redirect) (s : Session) : Flow × Session :=
  let substitute := run.output
  let (fields, s) := Expansion.allFields substitute words s
  match checked s with
  | (.onward, s) =>
    match fields with
    | [] =>
      let s := if given.isEmpty then s else s.done 0
      let (_, s) := assignments substitute given s
      match checked s with
      | (.onward, s) => under substitute redirects (fun s => (.onward, s)) s
      | ended => ended
    | name :: args =>
      let (values, after) := assignments substitute given s
      match checked { after with bindings := s.bindings } with
      | (.onward, s) =>
        if name = "exec" && args.isEmpty then
          match redirectAll substitute redirects s with
          | .ok s => (.onward, s.done 0)
          | .error (why, s) => (.leave, (s.blame why).done 2)
        else under substitute redirects (lending values (call run name args)) s
      | ended => ended
  | ended => ended

end Run

def run : Nat → Run
  | 0, _, s => (.late, s)
  | fuel + 1, c, s =>
    let next := run fuel
    match c with
    | .simple left given words redirects =>
      let s := if s.nested then s else { s with left }
      match Run.simple next given words redirects s with
      | (.onward, s) => Run.ended s
      | ended => ended
    | .pipeline [c] => next c s
    | .pipeline cs =>
      let (flow, after) := Run.stages next cs s
      match flow with
      | .onward => Run.ended { after with input := s.input }
      | flow => (flow, after)
    | .negated c =>
      match Run.asking next c s with
      | (.onward, s) => (.onward, s.done (if s.status = 0 then 1 else 0))
      | ended => ended
    | .both first second =>
      match Run.asking next first s with
      | (.onward, s) => if s.status = 0 then next second s else (.onward, s)
      | ended => ended
    | .either first second =>
      match Run.asking next first s with
      | (.onward, s) => if s.status = 0 then (.onward, s) else next second s
      | ended => ended
    | .sequence cs => Run.sequence next cs s
    | .background c =>
      let (_, after) := Run.apart next c { s with limit := none, input := [] }
      (.onward, { after with clock := s.clock, limit := s.limit, input := s.input }.done 0)
    | .subshell c =>
      match Run.apart next c s with
      | (.onward, s) => Run.ended s
      | ended => ended
    | .redirected c redirects => Run.under (Run.output next) redirects (next c) s
    | .branch condition success failure =>
      match Run.asking next condition s with
      | (.onward, s) =>
        if s.status = 0 then next success (s.done 0) else next failure (s.done 0)
      | ended => ended
    | .repeated until_ condition body =>
      let (flow, after) := Run.rounds until_ (Run.asking next condition) (next body) Run.maxRounds 0
        { s with loops := s.loops + 1 }
      (flow, { after with loops := s.loops })
    | .each name words body =>
      let (values, s) := match words with
        | some words => Expansion.allFields (Run.output next) words s
        | none => (s.arguments, s)
      match Run.checked s with
      | (.onward, s) =>
        let (flow, after) := Run.roundsOver name (next body) values
          { s with loops := s.loops + 1, status := 0 }
        (flow, { after with loops := s.loops })
      | ended => ended
    | .choice w arms =>
      let (text, s) := Expansion.text (Run.output next) w s
      let (arm, s) := Run.choose (Run.output next) text.toList arms s
      match Run.checked s with
      | (.onward, s) =>
        match arm with
        | some body => next body (s.done 0)
        | none => (.onward, s.done 0)
      | ended => ended
    | .define name body =>
      (.onward, { s with functions := (name, body) :: s.functions }.done 0)

def maxDepth : Nat := 2000

end ClassBatch.Shell
