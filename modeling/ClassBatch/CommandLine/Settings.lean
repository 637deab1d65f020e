import ClassBatch.CommandLine.Invocation

/-! The options and arguments of a command line, and reading their values. -/

namespace ClassBatch.CommandLine

inductive Key
  | java
  | cfr
  | fernflower
  | verbose
  | help
  | jar
  | class_
  | package
  | all
  | pattern
  | threads
  | timeout
  | decompiler
  | output
deriving DecidableEq, Repr

namespace Key

def long : Key → String
  | java => "java"
  | cfr => "cfr"
  | fernflower => "fernflower"
  | verbose => "verbose"
  | help => "help"
  | jar => ""
  | class_ => "class"
  | package => "package"
  | all => "all"
  | pattern => "pattern"
  | threads => "threads"
  | timeout => "timeout"
  | decompiler => "decompiler"
  | output => "output"

def short? : Key → Option Char
  | verbose => some 'v'
  | help => some 'h'
  | threads => some 't'
  | output => some 'o'
  | _ => none

def takesValue : Key → Bool
  | verbose | help | all => false
  | _ => true

def everywhere : List Key :=
  [java, cfr, fernflower, verbose, help]

def ofList : List Key :=
  pattern :: everywhere

def ofDecompile : List Key :=
  [class_, package, all, pattern, threads, timeout, decompiler, output] ++ everywhere

end Key

structure Settings where
  java : Option String := none
  cfr : Option String := none
  fernflower : Option String := none
  verbose : Bool := false
  jar : Option String := none
  class_ : Option String := none
  package : Option String := none
  all : Bool := false
  pattern : Option String := none
  threads : Option UInt64 := none
  timeout : Option UInt64 := none
  decompiler : Option Decompiler := none
  output : Option String := none
deriving DecidableEq, Repr

def digit? (c : Char) : Option Nat :=
  if c.isDigit then some (c.toNat - '0'.toNat) else none

def readNumber? (text : String) : Option UInt64 := do
  let digits := match text.toList with
    | '+' :: rest => rest
    | chars => chars
  let values ← digits.mapM digit?
  let value := values.foldl (fun n digit => 10 * n + digit) 0
  if values.isEmpty || value ≥ UInt64.size then none else some (UInt64.ofNat value)

def readPath (text : String) : Except UsageError String :=
  if text.isEmpty then .error .invalidValue else .ok text

def readNumber (text : String) : Except UsageError UInt64 :=
  match readNumber? text with
  | some value => .ok value
  | none => .error .invalidNumber

def readDecompiler (text : String) : Except UsageError Decompiler :=
  match Decompiler.ofName? text with
  | some decompiler => .ok decompiler
  | none => .error .invalidValue

namespace Settings

def has (s : Settings) : Key → Bool
  | .java => s.java.isSome
  | .cfr => s.cfr.isSome
  | .fernflower => s.fernflower.isSome
  | .verbose => s.verbose
  | .help => false
  | .jar => s.jar.isSome
  | .class_ => s.class_.isSome
  | .package => s.package.isSome
  | .all => s.all
  | .pattern => s.pattern.isSome
  | .threads => s.threads.isSome
  | .timeout => s.timeout.isSome
  | .decompiler => s.decompiler.isSome
  | .output => s.output.isSome

def put (s : Settings) (key : Key) (text : String) : Except UsageError Settings := do
  match key with
  | .java => return { s with java := some (← readPath text) }
  | .cfr => return { s with cfr := some (← readPath text) }
  | .fernflower => return { s with fernflower := some (← readPath text) }
  | .verbose => return { s with verbose := true }
  | .help => .error .displayHelp
  | .jar => return { s with jar := some (← readPath text) }
  | .class_ => return { s with class_ := some text }
  | .package => return { s with package := some text }
  | .all => return { s with all := true }
  | .pattern => return { s with pattern := some text }
  | .threads => return { s with threads := some (← readNumber text) }
  | .timeout => return { s with timeout := some (← readNumber text) }
  | .decompiler => return { s with decompiler := some (← readDecompiler text) }
  | .output => return { s with output := some (← readPath text) }

def give (s : Settings) (key : Key) (text : String) : Except UsageError Settings :=
  if s.has key then .error .argumentConflict else s.put key text

def selections (s : Settings) : List Selection :=
  (s.class_.map Selection.class_).toList ++ (s.package.map Selection.package).toList ++
    (s.pattern.map Selection.pattern).toList ++ if s.all then [.all] else []

def tools (before behind : Settings) : ToolPaths :=
  ⟨behind.java.or before.java, behind.cfr.or before.cfr, behind.fernflower.or before.fernflower⟩

def isEmpty (s : Settings) : Bool :=
  s == {}

def listCommand (s : Settings) : Except UsageError Command :=
  match s.jar with
  | some jar => .ok (.list jar s.pattern)
  | none => .error .missingArgument

def defaultThreads : UInt64 := 2

def defaultTimeout : UInt64 := 10

def decompileCommand (s : Settings) : Except UsageError Command :=
  match s.selections, s.jar with
  | _ :: _ :: _, _ => .error .argumentConflict
  | [selection], some jar =>
    .ok (.decompile jar selection (s.threads.getD defaultThreads).toNat
      (s.timeout.getD defaultTimeout) (s.decompiler.getD .default) s.output)
  | _, _ => .error .missingArgument

end Settings

end ClassBatch.CommandLine
