import ClassBatch.Text.Blank

/-! Paths as texts. -/

namespace ClassBatch.Files

inductive Component
  | root
  | current
  | parent
  | normal (name : List Char)
deriving DecidableEq, Repr

namespace Path

def isAbsolute (p : String) : Bool :=
  p.toList.head? == some '/'

def component? (first : Bool) (segment : List Char) : Option Component :=
  if segment.isEmpty then none
  else if segment = ['.'] then if first then some .current else none
  else if segment = ['.', '.'] then some .parent
  else some (.normal segment)

def components (p : List Char) : List Component :=
  match Text.splitAll (· = '/') p with
  | [] => []
  | first :: rest =>
    let tail := rest.filterMap (component? false)
    if p.head? = some '/' then .root :: tail
    else (component? true first).toList ++ tail

def join (base rest : String) : String :=
  if isAbsolute rest || base.isEmpty then rest
  else if base.toList.getLast? = some '/' then base ++ rest
  else base ++ "/" ++ rest

def dropTail : List Char → List Char
  | '.' :: '/' :: rest => if rest.isEmpty then ['/'] else dropTail rest
  | '/' :: rest => if rest.isEmpty then ['/'] else dropTail rest
  | s => s

def parent? (p : String) : Option String :=
  let bare := dropTail p.toList.reverse
  if bare.isEmpty || bare == ['/'] then none
  else some (String.ofList (dropTail (bare.dropWhile (· ≠ '/'))).reverse)

def namesDirectory (p : String) : Bool :=
  match p.toList.reverse with
  | '/' :: _ => true
  | '.' :: '/' :: _ => true
  | _ => p == "."

def below? : List Component → List Component → Option (List Component)
  | [], path => some path
  | _ :: _, [] => none
  | a :: root, b :: path => if a = b then below? root path else none

def render (place : List String) : String :=
  "/" ++ String.intercalate "/" place

end Path

end ClassBatch.Files
