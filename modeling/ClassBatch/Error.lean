/-! What can go wrong, and how it is told. -/

namespace ClassBatch

inductive PatternError
  | emptyName
  | emptyPackage
  | invalidRegex (expression : String)
deriving DecidableEq, Repr

def PatternError.message : PatternError → String
  | emptyName => "class name pattern is empty"
  | emptyPackage => "package name pattern is empty"
  | invalidRegex e => "invalid class name pattern `" ++ e ++ "`"

inductive DecompileError
  | launch (program : String)
  | exit (status stderr : String)
  | classNotFound (name : String)
  | noOutput (name : String)
  | cancelled (name : String)
  | panicked (reason : String)
  | io (text : String)
  | backend (text : String)
deriving DecidableEq, Repr

def DecompileError.message : DecompileError → String
  | launch program => "failed to launch " ++ program
  | exit status stderr => "decompiler exited with " ++ status ++ ": " ++ stderr
  | classNotFound name => "class " ++ name ++ " not found in jar"
  | noOutput name => "decompiler produced no source for " ++ name
  | cancelled name => "decompilation of " ++ name ++ " was cancelled"
  | panicked reason => "decompiler panicked: " ++ reason
  | io text => text
  | backend text => text

inductive BatchError
  | aborted
  | backend (cause : DecompileError)
deriving DecidableEq, Repr

def BatchError.message : BatchError → String
  | aborted => "batch was aborted before every class settled"
  | backend _ => "failed to create decompiler backend"

structure SaveError where
  path : String
deriving DecidableEq, Repr

def SaveError.message (e : SaveError) : String :=
  "failed to write " ++ e.path

end ClassBatch
