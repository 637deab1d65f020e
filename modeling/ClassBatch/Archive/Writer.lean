import ClassBatch.Archive.Zip

/-! Writing zip archives. The data are deflated in blocks that are not compressed. -/

namespace ClassBatch.Archive

open Text (Bytes)

def writeNumber : Nat → Nat → Bytes
  | 0, _ => []
  | n + 1, value => UInt8.ofNat value :: writeNumber n (value / 256)

def writeFields (fields : List (Nat × Nat)) : Bytes :=
  fields.flatMap fun (width, value) => writeNumber width value

def maxBlock : Nat := 0xFFFF

def storedBlock (last : Bool) (data : Bytes) : Bytes :=
  writeFields [(1, last.toNat), (2, data.length), (2, maxBlock - data.length)] ++ data

def deflateStored (data : Bytes) : Bytes :=
  if data.length ≤ maxBlock then storedBlock true data
  else storedBlock false (data.take maxBlock) ++ deflateStored (data.drop maxBlock)
termination_by data.length
decreasing_by simp [maxBlock] at *; omega

def nameFlags (name : String) : Nat :=
  if name.toList.all fun c => c.toNat < 0x80 then 0 else 0x800

structure Record where
  flags : Nat
  name : Bytes
  data : Bytes

def Record.of (name : String) (data : Bytes) : Record where
  flags := nameFlags name
  name := Text.encode name
  data := data

def isWide (value : Nat) : Bool :=
  zip64Mark < value

def startField (start : Nat) : Bytes :=
  if isWide start then writeFields [(2, 1), (2, 8), (8, start)] else []

def sharedHeader (start : Nat) (r : Record) : List (Nat × Nat) :=
  [(2, if isWide start then 45 else 20), (2, r.flags), (2, 8), (2, 0), (2, 0x21),
    (4, (checksum r.data).toNat), (4, (deflateStored r.data).length), (4, r.data.length),
    (2, r.name.length)]

/-- The local part of an entry. Its name is written whole, also where it is too long for the length in
front of it. -/
def localEntry (start : Nat) (r : Record) : Bytes :=
  writeFields ((4, localMark) :: sharedHeader start r ++ [(2, 0)]) ++ r.name ++ deflateStored r.data

def directoryEntry (start : Nat) (r : Record) : Bytes :=
  writeFields ((4, directoryMark) :: (2, 0x032E) :: sharedHeader start r ++
    [(2, (startField start).length), (2, 0), (2, 0), (2, 0), (4, 0x81A40000),
      (4, min start zip64Mark)]) ++ r.name ++ startField start

def writeEntries (start : Nat) : List Record → Bytes × Bytes
  | [] => ([], [])
  | r :: rest =>
    let here := localEntry start r
    let (parts, directory) := writeEntries (start + here.length) rest
    (here ++ parts, directoryEntry start r ++ directory)

def maxCount : Nat := 0xFFFF

def needsZip64 (count size start : Nat) : Bool :=
  maxCount < count || isWide (max size start)

def zip64End (count size start : Nat) : Bytes :=
  writeFields [(4, zip64EndMark), (8, 44), (2, 46), (2, 46), (4, 0), (4, 0), (8, count), (8, count),
      (8, size), (8, start)] ++
    writeFields [(4, zip64LocatorMark), (4, 0), (8, start + size), (4, 1)]

def directoryEnd (count size start : Nat) : Bytes :=
  (if needsZip64 count size start then zip64End count size start else []) ++
    writeFields [(4, directoryEndMark), (2, 0), (2, 0), (2, min count maxCount),
      (2, min count maxCount), (4, min size zip64Mark), (4, min start zip64Mark), (2, 0)]

def writeRecords (records : List Record) : Bytes :=
  let (parts, directory) := writeEntries 0 records
  parts ++ directory ++ directoryEnd records.length directory.length parts.length

def records (files : List (String × Bytes)) : List Record :=
  files.map fun (name, data) => .of name data

/-- An archive of the given entries, in their order. -/
def write (files : List (String × Bytes)) : Bytes :=
  writeRecords (records files)

end ClassBatch.Archive
