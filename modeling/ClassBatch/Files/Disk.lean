import ClassBatch.Files.Tree

/-! A tree of files as a program meets it: by paths, seen from a working directory. -/

namespace ClassBatch.Files

open Text (Bytes)

structure Disk where
  tree : Tree
  here : List String := []

namespace Disk

def maxPathLength : Nat := 4095

/-- Where a path leads; the last name need not be there. -/
def locate (d : Disk) (path : String) : Except FileError (List String) :=
  if path.isEmpty then .error .notFound
  else if path.toList.contains '\x00' then .error .badName
  else if path.utf8ByteSize > maxPathLength then .error .nameTooLong
  else d.tree.follow d.here (Path.components path.toList)

def node (d : Disk) (path : String) : Except FileError Node := do
  let node ← d.tree.find (← d.locate path)
  if Path.namesDirectory path && !node.isDir then .error .notDirectory else return node

def has (d : Disk) (path : String) : Bool :=
  (d.node path).toOption.isSome

def isDir (d : Disk) (path : String) : Bool :=
  (d.node path).toOption.any Node.isDir

def read (d : Disk) (path : String) : Except FileError Bytes := do
  match ← d.node path with
  | .file content _ => return content
  | .dir .. => .error .isDirectory

def change (d : Disk) (path : String) (act : Tree → List String → Except FileError Tree) :
    Except FileError Disk := do
  let place ← d.locate path
  if Path.namesDirectory path then
    match d.tree.find place with
    | .ok (.file ..) => .error .notDirectory
    | _ => .error .isDirectory
  else return { d with tree := ← act d.tree place }

def write (d : Disk) (path : String) (content : Bytes) : Except FileError Disk :=
  d.change path fun tree place => tree.write place content

def append (d : Disk) (path : String) (content : Bytes) : Except FileError Disk :=
  d.change path fun tree place => tree.append place content

def removeFile (d : Disk) (path : String) : Except FileError Disk :=
  d.change path Tree.removeFile

def createDir (d : Disk) (path : String) : Except FileError Disk := do
  return { d with tree := ← d.tree.createDir (← d.locate path) }

/-- Removes a directory with all below it. What was removed before a fault is gone. -/
def removeDir (d : Disk) (path : String) : Option FileError × Disk :=
  match d.locate path with
  | .error e => (some e, d)
  | .ok place => ((d.tree.removeDir place).1, { d with tree := (d.tree.removeDir place).2 })

def createAlong (d : Disk) (place : List String) : List Component → Option FileError × Disk
  | [] => if d.tree.isDir place then (none, d) else (some .exists_, d)
  | .root :: rest => d.createAlong [] rest
  | .current :: rest => d.createAlong place rest
  | .parent :: rest => d.createAlong place.dropLast rest
  | .normal name :: rest =>
    let place := place ++ [String.ofList name]
    match d.tree.find place with
    | .ok (.dir ..) => d.createAlong place rest
    | .ok (.file ..) => (some (if rest.isEmpty then .exists_ else .notDirectory), d)
    | .error .notFound =>
      match d.tree.createDir place with
      | .ok tree => { d with tree }.createAlong place rest
      | .error e => (some e, d)
    | .error e => (some e, d)

def createDirs (d : Disk) (path : String) : Option FileError × Disk :=
  if path.isEmpty then (none, d)
  else if path.toList.contains '\x00' then (some .badName, d)
  else d.createAlong d.here (Path.components path.toList)

def listing (d : Disk) (path : String) : List String :=
  match d.locate path with
  | .ok place => d.tree.listing place
  | .error _ => []

end Disk

end ClassBatch.Files
