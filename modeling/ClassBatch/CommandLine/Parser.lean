import ClassBatch.CommandLine.Settings

/-!
Reading a command line. A value is checked when the next option or argument asks for it, so an
option that is not known is told before a value that is not right.
-/

namespace ClassBatch.CommandLine

inductive Word
  | escape
  | long (name : String) (value : Option String)
  | short (letters : List Char)
  | plain

def Word.of (text : String) : Word :=
  match text.toList with
  | ['-', '-'] => .escape
  | '-' :: '-' :: rest =>
    let name := rest.takeWhile (· ≠ '=')
    let value := match rest.drop name.length with
      | _ :: value => some (String.ofList value)
      | [] => none
    .long (String.ofList name) value
  | '-' :: c :: rest => .short (c :: rest)
  | _ => .plain

structure Level where
  keys : List Key
  takesJar : Bool
  subcommands : List String

def Level.top : Level :=
  ⟨Key.everywhere, false, ["decompile", "list", "help"]⟩

def Level.list : Level :=
  ⟨Key.ofList, true, []⟩

def Level.decompile : Level :=
  ⟨Key.ofDecompile, true, []⟩

structure State where
  settings : Settings := {}
  pending : Option (Key × Option String) := none
  escaped : Bool := false
  jarMet : Bool := false

namespace State

def resolve (s : State) : Except UsageError State :=
  match s.pending with
  | none => .ok s
  | some (_, none) => .error .invalidValue
  | some (key, some text) => do
    return { s with settings := ← s.settings.give key text, pending := none }

def awaited (s : State) : Option Key :=
  match s.pending with
  | some (key, none) => some key
  | _ => none

def option (s : State) (key : Key) (value : Option String) : Except UsageError State := do
  let s ← s.resolve
  if key.takesValue && value.isNone then return { s with pending := some (key, none) }
  else return { s with settings := ← s.settings.give key (value.getD "") }

def long (s : State) (level : Level) (name : String) (value : Option String) :
    Except UsageError State :=
  match level.keys.find? fun key => key.long = name with
  | none => .error .unknownArgument
  | some key =>
    if value.isSome && !key.takesValue then .error .tooManyValues else s.option key value

def attached : List Char → Option String
  | [] => none
  | '=' :: rest => some (String.ofList rest)
  | rest => some (String.ofList rest)

def short (s : State) (level : Level) : List Char → Except UsageError State
  | [] => .ok s
  | c :: rest =>
    match level.keys.find? fun key => key.short? = some c with
    | none => .error .unknownArgument
    | some key =>
      if key.takesValue then s.option key (attached rest)
      else do (← s.option key none).short level rest

def argument (s : State) (level : Level) (text : String) : Except UsageError State := do
  if level.takesJar && !s.jarMet then
    return { ← s.resolve with pending := some (.jar, some text), jarMet := true }
  else if level.subcommands.isEmpty || (s.escaped && level.subcommands.contains text) then
    .error .unknownArgument
  else .error .invalidSubcommand

def word (s : State) (level : Level) (text : String) : Except UsageError State :=
  if s.escaped then s.argument level text
  else match Word.of text with
    | .escape => .ok { s with escaped := true }
    | .long name value => s.long level name value
    | .short letters => s.short level letters
    | .plain =>
      match s.awaited with
      | some key => .ok { s with pending := some (key, some text) }
      | none => s.argument level text

def read (s : State) (level : Level) :
    List String → Except UsageError (State × Option (String × List String))
  | [] => .ok (s, none)
  | text :: rest =>
    if !s.escaped && s.awaited.isNone && level.subcommands.contains text then
      .ok (s, some (text, rest))
    else do (← s.word level text).read level rest

end State

def helpOn : List String → UsageError
  | [] => .displayHelp
  | [name] => if Level.top.subcommands.contains name then .displayHelp else .invalidSubcommand
  | _ => .invalidSubcommand

def readCommand (level : Level) (words : List String) (finish : Settings → Except UsageError Command) :
    Except UsageError (Settings × Command) := do
  let (s, _) ← ({} : State).read level words
  let s ← s.resolve
  return (s.settings, ← finish s.settings)

def parse (words : List String) : Except UsageError Invocation := do
  let (before, subcommand) ← ({} : State).read .top words
  match subcommand with
  | none =>
    let s ← before.resolve
    .error (if s.settings.isEmpty then .nothingGiven else .missingSubcommand)
  | some ("help", rest) => .error (helpOn rest)
  | some (name, rest) =>
    let (behind, command) ← if name = "list" then readCommand .list rest Settings.listCommand
      else readCommand .decompile rest Settings.decompileCommand
    let before := (← before.resolve).settings
    return ⟨before.tools behind, before.verbose || behind.verbose, command⟩

end ClassBatch.CommandLine
