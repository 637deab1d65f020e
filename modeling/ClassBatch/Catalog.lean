import ClassBatch.Archive.Zip
import ClassBatch.Files.Disk
import ClassBatch.Names

/-!
The classes of a jar. A class is listed under the name of its entry without the ending, if that
name is a plain relative path; the entries of a class and of the classes nested in it are its family.
-/

namespace ClassBatch

open Archive Files
open Text (Bytes)

inductive MemberError
  | overflow
  | data (cause : ZipError)
deriving DecidableEq, Repr

def MemberError.message : MemberError → String
  | overflow => "capacity overflow"
  | data cause => cause.message

namespace Catalog

structure Member where
  entry : Entry
  packed : Bytes

def Member.name (m : Member) : String :=
  m.entry.name

def maxCapacity : Nat := 0x7FFFFFFFFFFFFFFF

/-- Room for the data is made beforehand, by the size that the entry tells. -/
def Member.read (m : Member) : Except MemberError Bytes :=
  if maxCapacity < m.entry.size then .error .overflow
  else (m.entry.unpacked m.packed).mapError .data

abbrev Members := List (Except ZipError Member)

def members (archive : Bytes) : Except ZipError Members :=
  (Archive.entries archive).map fun entries =>
    entries.map fun entry => (entry.opened archive).map fun packed => ⟨entry, packed⟩

def enclosed (depth : Nat) : List Component → Bool
  | [] => true
  | .root :: _ => false
  | .current :: rest => enclosed depth rest
  | .parent :: rest => depth ≠ 0 && enclosed (depth - 1) rest
  | .normal _ :: rest => enclosed (depth + 1) rest

def isNormal : Component → Bool
  | .normal _ => true
  | _ => false

def isSlash (c : Char) : Bool :=
  c = '/' || c = '\x5c'

def isPlain (segment : List Char) : Bool :=
  !segment.isEmpty && segment != ['.'] && segment != ['.', '.']

/-- Whether an entry's name is a relative path of plain segments only. -/
def isContained (name : String) : Bool :=
  let path := Path.components name.toList
  !name.toList.contains '\x00' && enclosed 0 path && path.all isNormal &&
    (Text.splitAll isSlash name.toList).all isPlain

def ending : List Char :=
  ".class".toList

def className? (entry : String) : Option String :=
  if isContained entry then
    (Text.beforeEnding? ending entry.toList).map fun stem =>
      String.ofList (stem.map fun c => if c = '\x5c' then '/' else c)
  else none

def inFamily (name entry : String) : Bool :=
  isContained entry && (entry.toList == name.toList ++ ending ||
    (Text.afterStart? (name.toList ++ ['$']) entry.toList).any fun rest =>
      ending.isSuffixOf rest && !rest.any isSlash)

def classNames (ms : Members) : Except ZipError (List String) := do
  let opened ← ms.mapM id
  return Names.sorted (opened.filterMap fun m => className? m.name)

end Catalog

inductive CatalogError
  | unopened (path : String) (cause : FileError)
  | unmapped (path : String)
  | malformed (path : String) (cause : ZipError)
  | closed (cause : ZipError)
  | unreadable (entry path : String) (cause : MemberError)
deriving DecidableEq, Repr

namespace CatalogError

def message : CatalogError → String
  | unopened path _ => "Failed to open jar: " ++ path
  | unmapped path => "Failed to mmap jar: " ++ path
  | malformed path _ => "Failed to read zip structure: " ++ path
  | closed cause => cause.message
  | unreadable entry path _ => "Failed to read " ++ entry ++ " from " ++ path

def chain (e : CatalogError) : String :=
  match e with
  | unopened _ cause => e.message ++ ": " ++ cause.message
  | unmapped _ => e.message ++ ": No such device (os error 19)"
  | malformed _ cause => e.message ++ ": " ++ cause.chain
  | closed cause => cause.chain
  | unreadable _ _ cause => e.message ++ ": " ++ cause.message

def panic? : CatalogError → Option String
  | unreadable _ _ .overflow => some MemberError.overflow.message
  | _ => none

end CatalogError

namespace Catalog

def family (path name : String) : Members → Except CatalogError (List (String × Bytes))
  | [] => .ok []
  | .error e :: _ => .error (.closed e)
  | .ok m :: rest =>
    if inFamily name m.name then
      match m.read with
      | .ok data => (family path name rest).map ((m.name, data) :: ·)
      | .error e => .error (.unreadable m.name path e)
    else family path name rest

def openJar (d : Disk) (path : String) : Except CatalogError Members :=
  match d.read path with
  | .error .isDirectory => .error (.unmapped path)
  | .error e => .error (.unopened path e)
  | .ok archive => (members archive).mapError (.malformed path)

def list (d : Disk) (path : String) : Except CatalogError (List String) := do
  (classNames (← openJar d path)).mapError .closed

def readFamily (d : Disk) (path name : String) : Except CatalogError (List (String × Bytes)) := do
  family path name (← openJar d path)

end Catalog

end ClassBatch
