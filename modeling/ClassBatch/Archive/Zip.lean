import ClassBatch.Archive.Checksum
import ClassBatch.Archive.CodePage
import ClassBatch.Archive.Inflate
import ClassBatch.Text.Utf8

/-!
Reading zip archives. The end record is searched from the back and leads to the directory, whose
entries say where their data begin. Names and sizes are the directory's; what stands before the
data themselves is only skipped.
-/

namespace ClassBatch.Archive

open Text (Bytes)

inductive ZipError
  | tooShort
  | noEnd
  | badExtent
  | noRoomForZip64
  | noZip64End
  | manyDisks
  | badDirectoryHeader
  | cutShort
  | aesLength
  | aesVendor
  | aesVersion
  | aesStrength
  | aesMissing
  | headerTooLarge
  | passwordRequired
  | badLocalHeader
  | unknownMethod
  | badChecksum
  | corruptData
deriving DecidableEq, Repr

namespace ZipError

def invalid (reason : String) : String :=
  "invalid Zip archive: " ++ reason

def unsupported (reason : String) : String :=
  "unsupported Zip archive: " ++ reason

def message : ZipError → String
  | tooShort => invalid "Invalid zip header"
  | noEnd => invalid "Could not find central directory end"
  | badExtent => invalid "Invalid central directory size or offset"
  | noRoomForZip64 => invalid "File cannot contain ZIP64 central directory end"
  | noZip64End => invalid "Could not find ZIP64 central directory end"
  | manyDisks => unsupported "Support for multi-disk files is not implemented"
  | badDirectoryHeader => invalid "Invalid Central Directory header"
  | cutShort => "failed to fill whole buffer"
  | aesLength => unsupported "AES extra data field has an unsupported length"
  | aesVendor => invalid "Invalid AES vendor"
  | aesVersion => invalid "Invalid AES vendor version"
  | aesStrength => invalid "Invalid AES encryption strength"
  | aesMissing => invalid "AES encryption without AES extra data field"
  | headerTooLarge => invalid "Archive header is too large"
  | passwordRequired => unsupported "Password required to decrypt file"
  | badLocalHeader => invalid "Invalid local file header"
  | unknownMethod => unsupported "Compression method not supported"
  | badChecksum => "Invalid checksum"
  | corruptData => "corrupt deflate stream"

def chain (e : ZipError) : String :=
  if e = cutShort then e.message ++ ": " ++ e.message else e.message

end ZipError

def readNumber? : Nat → Bytes → Option (Nat × Bytes)
  | 0, s => some (0, s)
  | _ + 1, [] => none
  | n + 1, b :: s => (readNumber? n s).map fun (value, rest) => (b.toNat + 256 * value, rest)

def readFields : List Nat → Bytes → Except ZipError (List Nat × Bytes)
  | [], s => .ok ([], s)
  | width :: widths, s => do
    match readNumber? width s with
    | none => .error .cutShort
    | some (value, s) =>
      let (values, rest) ← readFields widths s
      return (value :: values, rest)

def readBytes (n : Nat) (s : Bytes) : Except ZipError (Bytes × Bytes) :=
  if n ≤ s.length then .ok (s.take n, s.drop n) else .error .cutShort

def directoryEndMark : Nat := 0x06054b50
def zip64EndMark : Nat := 0x06064b50
def zip64LocatorMark : Nat := 0x07064b50
def directoryMark : Nat := 0x02014b50
def localMark : Nat := 0x04034b50

def endSize : Nat := 22

def lastEnd (lowest highest place : Nat) (found : Option Nat) : Bytes → Option Nat
  | [] => found
  | b :: s =>
    let here := lowest ≤ place && place ≤ highest && b == 0x50 &&
      (readNumber? 4 (b :: s)).any fun (mark, _) => mark == directoryEndMark
    lastEnd lowest highest (place + 1) (if here then some place else found) s

structure DirectoryEnd where
  place : Nat
  disk : Nat
  directoryDisk : Nat
  entriesHere : Nat
  entries : Nat
  size : Nat
  offset : Nat
  commentLength : Nat

def readEnd (s : Bytes) : Except ZipError DirectoryEnd := do
  if s.length < endSize then .error .tooShort
  else
    let highest := s.length - endSize
    match lastEnd (highest - 0xFFFF) highest 0 none s with
    | none => .error .noEnd
    | some place =>
      match ← readFields [4, 2, 2, 2, 2, 4, 4, 2] (s.drop place) with
      | ([_, disk, directoryDisk, entriesHere, entries, size, offset, comment], rest) =>
        let _ ← readBytes comment rest
        return ⟨place, disk, directoryDisk, entriesHere, entries, size, offset, comment⟩
      | _ => .error .cutShort

def DirectoryEnd.overflows (e : DirectoryEnd) : Bool :=
  e.disk == 0xFFFF || e.directoryDisk == 0xFFFF || e.entriesHere == 0xFFFF ||
    e.entries == 0xFFFF || e.size == 0xFFFFFFFF || e.offset == 0xFFFFFFFF

structure Directory where
  start : Nat
  shift : Nat
  count : Nat

def findZip64End (highest place : Nat) : Nat → Bytes → Except ZipError Nat
  | 0, _ => .error .noZip64End
  | fuel + 1, s =>
    if highest < place then .error .noZip64End
    else match readNumber? 4 s with
      | none => .error .cutShort
      | some (mark, _) =>
        if mark = zip64EndMark then .ok place
        else findZip64End highest (place + 1) fuel (s.drop 1)

def readZip64 (s : Bytes) (e : DirectoryEnd) (disk announced : Nat) :
    Except ZipError Directory := do
  if !e.overflows && e.disk != disk then .error .manyDisks
  else if e.place < 60 then .error .noRoomForZip64
  else
    let place ← findZip64End (e.place - 60) announced (s.length + 1) (s.drop announced)
    match ← readFields [4, 8, 2, 2, 4, 4, 8, 8, 8, 8] (s.drop place) with
    | ([_, _, _, _, disk, directoryDisk, _, entries, _, offset], _) =>
      let shift := place - announced
      if disk ≠ directoryDisk then .error .manyDisks
      else if offset + shift ≥ UInt64.size then .error .badExtent
      else return ⟨offset + shift, shift, entries⟩
    | _ => .error .cutShort

def locateDirectory (s : Bytes) (e : DirectoryEnd) : Except ZipError Directory :=
  let back := 20 + endSize + e.commentLength
  let locator := if back ≤ s.length then
      (readFields [4, 4, 8, 4] (s.drop (s.length - back))).toOption
    else none
  match locator with
  | some ([mark, disk, announced, _], _) =>
    if mark = zip64LocatorMark then readZip64 s e disk announced else plain
  | _ => plain
where
  plain : Except ZipError Directory :=
    if e.size + e.offset ≤ e.place then
      .ok ⟨e.place - e.size, e.place - e.size - e.offset, e.entriesHere⟩
    else .error .badExtent

structure Entry where
  name : String
  encrypted : Bool
  method : Nat
  crc : Nat
  packedSize : Nat
  size : Nat
  start : Nat
  aes : Bool := false
deriving DecidableEq, Repr

def zip64Mark : Nat := 0xFFFFFFFF

def readZip64Field (e : Entry) (s : Bytes) : Entry × Option (Bytes × Nat) :=
  let take (wanted : Bool) (set : Nat → Entry → Entry) (state : Entry × Option (Bytes × Nat)) :=
    match state with
    | (e, some (s, used)) =>
      if wanted then
        match readNumber? 8 s with
        | some (value, s) => (set value e, some (s, used + 8))
        | none => (e, none)
      else (e, some (s, used))
    | state => state
  let state := take (e.size == zip64Mark) (fun v e => { e with size := v }) (e, some (s, 0))
  let state := take (e.packedSize == zip64Mark) (fun v e => { e with packedSize := v }) state
  take (e.start == zip64Mark) (fun v e => { e with start := v }) state

def readAesField (e : Entry) (length : Nat) (s : Bytes) :
    Except ZipError (Entry × Option Bytes) :=
  if length ≠ 7 then .error .aesLength
  else match readFields [2, 2, 1, 2] s with
    | .ok ([version, vendor, strength, method], rest) =>
      if vendor ≠ 0x4541 then .error .aesVendor
      else if version ≠ 1 ∧ version ≠ 2 then .error .aesVersion
      else if strength = 0 ∨ strength > 3 then .error .aesStrength
      else .ok ({ e with aes := true, method }, some rest)
    | _ => .ok (e, none)

def readExtra : Nat → Bytes → Entry → Except ZipError Entry
  | 0, _, e => .ok e
  | fuel + 1, s, e =>
    match readFields [2, 2] s with
    | .ok ([kind, length], rest) =>
      if kind = 1 then
        match readZip64Field e rest with
        | (e, some (rest, used)) => readExtra fuel (rest.drop (length - used)) e
        | (e, none) => .ok e
      else if kind = 0x9901 then
        match readAesField e length rest with
        | .ok (e, some rest) => readExtra fuel (rest.drop length) e
        | .ok (e, none) => .ok e
        | .error error => .error error
      else readExtra fuel (rest.drop length) e
    | _ => .ok e

def readDirectoryEntry (shift : Nat) (s : Bytes) : Except ZipError (Entry × Bytes) := do
  match ← readFields [4] s with
  | ([mark], s) =>
    if mark ≠ directoryMark then .error .badDirectoryHeader
    else match ← readFields [2, 2, 2, 2, 2, 2, 4, 4, 4, 2, 2, 2, 2, 2, 4, 4] s with
      | ([_, _, flags, method, _, _, crc, packedSize, size, nameLength, extraLength,
          commentLength, _, _, _, start], s) =>
        let (name, s) ← readBytes nameLength s
        let (extra, s) ← readBytes extraLength s
        let (_, s) ← readBytes commentLength s
        let name := if flags.testBit 11 then Text.decodeLossy name else decodeCodePage name
        let encrypted := flags.testBit 0
        let e ← readExtra (extra.length + 1) extra
          { name, encrypted, method, crc, packedSize, size, start }
        if e.method = 99 ∧ !e.aes then .error .aesMissing
        else if e.start + shift ≥ UInt64.size then .error .headerTooLarge
        else return ({ e with start := e.start + shift }, s)
      | _ => .error .cutShort
  | _ => .error .cutShort

def readDirectory (shift : Nat) : Nat → Bytes → Except ZipError (List Entry)
  | 0, _ => .ok []
  | count + 1, s => do
    let (e, s) ← readDirectoryEntry shift s
    return e :: (← readDirectory shift count s)

/-- The entries of an archive in the order of its directory. -/
def entries (s : Bytes) : Except ZipError (List Entry) := do
  let e ← readEnd s
  if !e.overflows && e.disk != e.directoryDisk then .error .manyDisks
  else
    let directory ← locateDirectory s e
    readDirectory directory.shift directory.count (s.drop directory.start)

namespace Entry

def opened (e : Entry) (archive : Bytes) : Except ZipError Bytes := do
  if e.encrypted then .error .passwordRequired
  else match ← readFields [4] (archive.drop e.start) with
    | ([mark], s) =>
      if mark ≠ localMark then .error .badLocalHeader
      else
        match ← readFields [2, 2] (s.drop 22) with
        | ([nameLength, extraLength], s) =>
          if e.method ≠ 0 ∧ e.method ≠ 8 then .error .unknownMethod
          else if e.aes then .error .passwordRequired
          else return (s.drop (nameLength + extraLength)).take e.packedSize
        | _ => .error .cutShort
    | _ => .error .cutShort

def unpacked (e : Entry) (packed : Bytes) : Except ZipError Bytes := do
  let data ← if e.method = 0 then pure packed
    else match Inflate.inflate? packed with
      | some data => pure data
      | none => .error .corruptData
  if (checksum data).toNat = e.crc then return data else .error .badChecksum

end Entry

end ClassBatch.Archive
