import ClassBatch.Text.Blank

/-! Internal class names: segments joined by `/`, as in `java/util/List`. -/

namespace ClassBatch.ClassName

open Text

def separator (c : Char) : Bool :=
  c = '.' || c = '\x5c'

/-- Reads `a.b.C`, `a/b/C` and `a/b/C.class` as the same name. -/
def normalizeChars (raw : List Char) : List Char :=
  let bare := trimBoth (· = '/') (trimBoth isBlank raw)
  let stem := (beforeEnding? ".class".toList bare).getD bare
  stem.map fun c => if separator c then '/' else c

def normalize (raw : String) : String :=
  String.ofList (normalizeChars raw.toList)

def simpleChars (name : List Char) : List Char :=
  (name.reverse.takeWhile (· ≠ '/')).reverse

def simple (name : String) : String :=
  String.ofList (simpleChars name.toList)

end ClassBatch.ClassName
