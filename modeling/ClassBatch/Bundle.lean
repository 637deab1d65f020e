import ClassBatch.Archive.Writer
import ClassBatch.Error
import ClassBatch.Files.Disk

/-! Saving sources: a single one as a file, any other number as an archive. -/

namespace ClassBatch

open Files
open Text (Bytes)

inductive Saved
  | sourceFile (path : String)
  | archive (path : String) (entries : Nat)
deriving DecidableEq, Repr

def Saved.path : Saved → String
  | sourceFile path => path
  | archive path _ => path

namespace Bundle

def entries (sources : List (String × String)) : List (String × Bytes) :=
  sources.map fun (name, text) => (name ++ ".java", Text.encode text)

def content : List (String × String) → Bytes
  | [(_, text)] => Text.encode text
  | sources => Archive.write (entries sources)

def saved (path : String) : List (String × String) → Saved
  | [_] => .sourceFile path
  | sources => .archive path sources.length

/-- Creates the directory of the destination and writes the sources there. Directories that were
created before a fault stay. -/
def save (d : Disk) (sources : List (String × String)) (path : String) :
    Except SaveError Saved × Disk :=
  let parent := (Path.parent? path).getD ""
  match d.createDirs parent with
  | (some _, d) => (.error ⟨parent⟩, d)
  | (none, d) =>
    match d.write path (content sources) with
    | .ok d => (.ok (saved path sources), d)
    | .error _ => (.error ⟨path⟩, d)

end Bundle

end ClassBatch
