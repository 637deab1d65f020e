import ClassBatch.ClassName

/-! Compilable stand-ins for classes without a decompiled source. -/

namespace ClassBatch.Source

def stub (name comment : String) : String :=
  "public class " ++ ClassName.simple name ++ " \x7b\n\t// " ++ comment ++ "\n\x7d"

def failureStub (name : String) : String :=
  stub name ("Failed to decompile: " ++ name)

def timeoutStub (name : String) : String :=
  stub name ("Failed to decompile, took too long to decompile: " ++ name)

end ClassBatch.Source
