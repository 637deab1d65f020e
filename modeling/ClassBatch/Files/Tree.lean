import ClassBatch.Files.Path
import ClassBatch.Text.Utf8

/-!
Trees of files. The entries of a directory stand in the order in which the directory lists them.
-/

namespace ClassBatch.Files

open Text (Bytes)

inductive FileError
  | notFound
  | denied
  | exists_
  | notDirectory
  | isDirectory
  | nameTooLong
  | notText
  | badName
deriving DecidableEq, Repr

def FileError.message : FileError → String
  | notFound => "No such file or directory (os error 2)"
  | denied => "Permission denied (os error 13)"
  | exists_ => "File exists (os error 17)"
  | notDirectory => "Not a directory (os error 20)"
  | isDirectory => "Is a directory (os error 21)"
  | nameTooLong => "File name too long (os error 36)"
  | notText => "stream did not contain valid UTF-8"
  | badName => "file name contained an unexpected NUL byte"

inductive Node
  | file (content : Bytes) (executable : Bool)
  /-- The entries of a locked directory can be neither made nor removed. -/
  | dir (entries : List (String × Node)) (locked : Bool := false)

namespace Node

def isDir : Node → Bool
  | dir .. => true
  | file .. => false

def isFilled : Node → Bool
  | dir (_ :: _) _ => true
  | _ => false

def setEntry (name : String) (node : Node) : List (String × Node) → List (String × Node)
  | [] => [(name, node)]
  | (other, kept) :: rest =>
    if other = name then (name, node) :: rest else (other, kept) :: setEntry name node rest

def eraseEntry (name : String) (entries : List (String × Node)) : List (String × Node) :=
  entries.filter fun (other, _) => other ≠ name

def withEntry (name : String) (entries : List (String × Node)) (locked : Bool) :
    Option Node → Node
  | some node => dir (setEntry name node entries) locked
  | none => dir (eraseEntry name entries) locked

def allow (locked : Bool) (old new : Option Node) : Except FileError (Option Node) :=
  if locked && old.isSome != new.isSome then .error .denied else .ok new

def maxNameLength : Nat := 255

def fits (name : String) : Bool :=
  name.utf8ByteSize ≤ maxNameLength

def find : List String → Node → Except FileError Node
  | [], node => .ok node
  | _ :: _, file .. => .error .notDirectory
  | name :: rest, dir entries _ =>
    if !fits name then .error .nameTooLong
    else match entries.lookup name with
      | some node => find rest node
      | none => .error .notFound

def alter (change : Option Node → Except FileError (Option Node)) :
    List String → Node → Except FileError Node
  | [], node => .ok node
  | _ :: _, file .. => .error .notDirectory
  | [name], dir entries locked =>
    if !fits name then .error .nameTooLong
    else
      let old := entries.lookup name
      (change old >>= allow locked old).map (withEntry name entries locked)
  | name :: rest, dir entries locked => do
    match entries.lookup name with
    | some node => return dir (setEntry name (← alter change rest node) entries) locked
    | none => .error .notFound

mutual

def search (wanted : String) : Node → Option (List String)
  | file .. => none
  | dir entries _ => searchEntries wanted entries

def searchEntries (wanted : String) : List (String × Node) → Option (List String)
  | [] => none
  | (name, file ..) :: rest => if name = wanted then some [name] else searchEntries wanted rest
  | (name, dir entries _) :: rest =>
    match searchEntries wanted entries with
    | some place => some (name :: place)
    | none => searchEntries wanted rest

end

mutual

def places : Node → List (List String × Bool)
  | file .. => []
  | dir entries _ => entryPlaces entries

def entryPlaces : List (String × Node) → List (List String × Bool)
  | [] => []
  | (name, node) :: rest =>
    ([name], node.isDir) :: ((places node).map fun (place, isDir) => (name :: place, isDir)) ++
      entryPlaces rest

end

mutual

def strip : Node → Node
  | file content executable => file content executable
  | dir entries locked => dir (stripEntries locked entries) locked

def stripEntries (locked : Bool) : List (String × Node) → List (String × Node)
  | [] => []
  | (name, node) :: rest =>
    if locked || (strip node).isFilled then (name, strip node) :: rest
    else eraseEntry name (stripEntries locked rest)

end

end Node

structure Tree where
  root : Node

namespace Tree

def empty : Tree :=
  ⟨.dir []⟩

def find (t : Tree) (place : List String) : Except FileError Node :=
  t.root.find place

def has (t : Tree) (place : List String) : Bool :=
  (t.find place).toOption.isSome

def isDir (t : Tree) (place : List String) : Bool :=
  (t.find place).toOption.any Node.isDir

def alter (t : Tree) (place : List String)
    (change : Option Node → Except FileError (Option Node)) : Except FileError Tree := do
  if place.isEmpty then .error .isDirectory
  else return ⟨← t.root.alter change place⟩

def read (t : Tree) (place : List String) : Except FileError Bytes := do
  match ← t.find place with
  | .file content _ => return content
  | .dir .. => .error .isDirectory

def write (t : Tree) (place : List String) (content : Bytes) : Except FileError Tree :=
  t.alter place fun
    | some (.file _ executable) => .ok (some (.file content executable))
    | some (.dir ..) => .error .isDirectory
    | none => .ok (some (.file content false))

def append (t : Tree) (place : List String) (content : Bytes) : Except FileError Tree :=
  t.alter place fun
    | some (.file old executable) => .ok (some (.file (old ++ content) executable))
    | some (.dir ..) => .error .isDirectory
    | none => .ok (some (.file content false))

def setExecutable (t : Tree) (place : List String) : Except FileError Tree :=
  t.alter place fun
    | some (.file content _) => .ok (some (.file content true))
    | some (.dir entries locked) => .ok (some (.dir entries locked))
    | none => .error .notFound

def createDir (t : Tree) (place : List String) : Except FileError Tree :=
  if place.isEmpty then .error .exists_
  else t.alter place fun
    | some _ => .error .exists_
    | none => .ok (some (.dir []))

def follow (t : Tree) (place : List String) : List Component → Except FileError (List String)
  | [] => .ok place
  | .root :: rest => t.follow [] rest
  | .current :: rest => t.follow place rest
  | .parent :: rest => t.follow place.dropLast rest
  | [.normal name] => .ok (place ++ [String.ofList name])
  | .normal name :: rest =>
    match t.find (place ++ [String.ofList name]) with
    | .ok (.dir ..) => t.follow (place ++ [String.ofList name]) rest
    | .ok (.file ..) => .error .notDirectory
    | .error e => .error e

def removeFile (t : Tree) (place : List String) : Except FileError Tree :=
  t.alter place fun
    | some (.file ..) => .ok none
    | some (.dir ..) => .error .isDirectory
    | none => .error .notFound

def stripDir (t : Tree) (place : List String) : Except FileError Tree :=
  t.alter place fun
    | some (.dir entries locked) => .ok (some (.strip (.dir entries locked)))
    | some (.file ..) => .error .notDirectory
    | none => .error .notFound

def dropDir (t : Tree) (place : List String) : Except FileError Tree :=
  t.alter place fun node => if node.any Node.isFilled then .error .denied else .ok none

def removeDir (t : Tree) (place : List String) : Option FileError × Tree :=
  match t.stripDir place with
  | .error e => (some e, t)
  | .ok t =>
    match t.dropDir place with
    | .error e => (some e, t)
    | .ok t => (none, t)

def listing (t : Tree) (place : List String) : List String :=
  match t.find place with
  | .ok node =>
    (node.places.map fun (below, isDir) =>
      String.intercalate "/" below ++ if isDir then "/" else "").mergeSort fun a b => a ≤ b
  | .error _ => []

end Tree

end ClassBatch.Files
