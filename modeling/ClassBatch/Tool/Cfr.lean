import ClassBatch.Tool.Java

/-! Decompiling with CFR, which reads the jar itself and writes the source of one class. -/

namespace ClassBatch.Tool

open Files

structure Cfr where
  java : String
  cfrJar : String
  classJar : String
deriving DecidableEq, Repr

namespace Cfr

def dotted (name : String) : String :=
  String.ofList (name.toList.map fun c => if c = '/' then '.' else c)

def arguments (t : Cfr) (name : String) : List String :=
  ["-jar", t.cfrJar, "--extraclasspath", t.classJar, dotted name, "--silent", "true",
    "--comments", "false"]

def source (name : String) (o : Java.Output) : Except DecompileError String := do
  let text ← o.checked
  if text.toList.all Text.isBlank then .error (.noOutput name) else return text

def decompile (t : Cfr) (launcher : Launcher) (cancelled : Option Nat) (name : String) (d : Disk) :
    Except DecompileError String × Disk :=
  let (output, d) := Java.run launcher t.java (t.arguments name) cancelled name d
  (output >>= source name, d)

end Cfr

end ClassBatch.Tool
