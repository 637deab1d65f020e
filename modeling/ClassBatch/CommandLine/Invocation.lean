import ClassBatch.Decompiler
import ClassBatch.Pattern

/-! What a command line asks for. -/

namespace ClassBatch.CommandLine

inductive Selection
  | class_ (raw : String)
  | package (raw : String)
  | pattern (raw : String)
  | all
deriving DecidableEq, Repr

def Selection.toPattern : Selection → Except PatternError Pattern
  | class_ raw => Pattern.parseExact raw
  | package raw => Pattern.parsePackage raw
  | pattern raw => Pattern.parse raw
  | all => .ok .all

inductive Command
  | list (jar : String) (pattern : Option String)
  | decompile (jar : String) (selection : Selection) (threads : Nat) (timeout : UInt64)
      (decompiler : Decompiler) (output : Option String)
deriving DecidableEq, Repr

structure ToolPaths where
  java : Option String := none
  cfr : Option String := none
  fernflower : Option String := none
deriving DecidableEq, Repr

structure Invocation where
  tools : ToolPaths
  verbose : Bool
  command : Command
deriving DecidableEq, Repr

inductive UsageError
  | argumentConflict
  | displayHelp
  | nothingGiven
  | invalidSubcommand
  | invalidValue
  | missingArgument
  | missingSubcommand
  | tooManyValues
  | unknownArgument
  | invalidNumber
deriving DecidableEq, Repr

def UsageError.exitCode : UsageError → Nat
  | displayHelp => 0
  | _ => 2

end ClassBatch.CommandLine
