import ClassBatch.Proofs.Archive.Fields
import ClassBatch.Proofs.Archive.Stored
import ClassBatch.Proofs.Utf8

/-! The directory of a written archive. Each of its entries is read as it was written, with as much of
its name as the length in front of it tells. -/

namespace ClassBatch.Archive

open Text (Bytes)

variable {name : String} {r : Record} {rs : List Record} {rest : Bytes} {start : Nat}

def decodeName (flags : Nat) (bytes : Bytes) : String :=
  if flags.testBit 11 then Text.decodeLossy bytes else decodeCodePage bytes

namespace Record

def shown (r : Record) : Bytes :=
  r.name.take (r.name.length % 256 ^ 2)

def hidden (r : Record) : Bytes :=
  r.name.drop (r.name.length % 256 ^ 2)

lemma shown_length (r : Record) : r.shown.length = r.name.length % 256 ^ 2 := by
  rw [shown, List.length_take]
  exact Nat.min_eq_left (Nat.mod_le _ _)

lemma shown_append_hidden (r : Record) : r.shown ++ r.hidden = r.name :=
  List.take_append_drop _ _

lemma shown_of_lt (h : r.name.length < 256 ^ 2) : r.shown = r.name := by
  rw [shown, Nat.mod_eq_of_lt h, List.take_length]

lemma hidden_of_lt (h : r.name.length < 256 ^ 2) : r.hidden = [] := by
  rw [hidden, Nat.mod_eq_of_lt h, List.drop_length]

structure Fits (r : Record) : Prop where
  flags : r.flags < 256 ^ 2
  plain : r.flags.testBit 0 = false
  data : (deflateStored r.data).length < zip64Mark

def entryAt (r : Record) (start : Nat) : Entry where
  name := decodeName r.flags r.shown
  encrypted := false
  method := 8
  crc := (checksum r.data).toNat
  packedSize := (deflateStored r.data).length
  size := r.data.length
  start := start

end Record

def entriesFrom (start : Nat) : List Record → List Entry
  | [] => []
  | r :: rs => r.entryAt start :: entriesFrom (start + (localEntry start r).length) rs

lemma entriesFrom_names (start : Nat) (rs : List Record) :
    (entriesFrom start rs).map Entry.name =
      rs.map fun r => decodeName r.flags r.shown := by
  induction rs generalizing start with
  | nil => rfl
  | cons r rs ih => exact congrArg (decodeName r.flags r.shown :: ·) (ih _)

lemma utf8EncodeChar_of_lt {c : Char} (h : c.toNat < 0x80) :
    String.utf8EncodeChar c = [UInt8.ofNat c.toNat] := by
  have hle : c.val.toNat ≤ 0x7F := Nat.le_of_lt_succ h
  rw [String.utf8EncodeChar, if_pos hle]
  rfl

lemma codePageChar_ofNat {c : Char} (h : c.toNat < 0x80) :
    codePageChar (UInt8.ofNat c.toNat) = c := by
  have hbyte : (UInt8.ofNat c.toNat).toNat = c.toNat :=
    UInt8.toNat_ofNat_of_lt' (Nat.lt_trans h (by decide))
  have hlt : UInt8.ofNat c.toNat < 0x80 := by rwa [UInt8.lt_iff_toNat_lt, hbyte]
  rw [codePageChar, if_pos hlt, hbyte, Char.ofNat_toNat]

lemma decodeCodePage_encode (h : ∀ c ∈ name.toList, c.toNat < 0x80) :
    decodeCodePage (Text.encode name) = name := by
  have hmap : ∀ s : List Char, (∀ c ∈ s, c.toNat < 0x80) →
      (s.flatMap String.utf8EncodeChar).map codePageChar = s := by
    intro s hs
    induction s with
    | nil => rfl
    | cons c s ih =>
      have hc := hs c List.mem_cons_self
      rw [List.flatMap_cons, utf8EncodeChar_of_lt hc, List.singleton_append, List.map_cons,
        codePageChar_ofNat hc, ih fun c' h' => hs c' (List.mem_cons_of_mem c h')]
  rw [decodeCodePage, Text.encode, hmap _ h, String.ofList_toList]

lemma decodeName_encode (name : String) :
    decodeName (nameFlags name) (Text.encode name) = name := by
  rw [nameFlags]
  split
  · rename_i hascii
    rw [List.all_eq_true] at hascii
    exact decodeCodePage_encode fun c hc => of_decide_eq_true (hascii c hc)
  · exact Text.decodeLossy_encode name

section Extra

variable {e : Entry}

lemma readZip64Field_start (hsize : e.size < zip64Mark) (hpacked : e.packedSize < zip64Mark)
    (he : e.start = zip64Mark) (hstart : start < UInt64.size) (rest : Bytes) :
    readZip64Field e (writeNumber 8 start ++ rest) = ({ e with start := start }, some (rest, 8)) := by
  have hsize' : (e.size == zip64Mark) = false := beq_false_of_ne (Nat.ne_of_lt hsize)
  have hpacked' : (e.packedSize == zip64Mark) = false := beq_false_of_ne (Nat.ne_of_lt hpacked)
  have hvalue : start % 256 ^ 8 = start := Nat.mod_eq_of_lt hstart
  have hread : readNumber? 8 (writeNumber 8 start ++ rest) = some (start, rest) := by
    rw [readNumber?_writeNumber, hvalue]
  simp [readZip64Field, hsize', hpacked', he, hread]

lemma readExtra_nil (n : Nat) (e : Entry) : readExtra n [] e = .ok e := by
  cases n <;> rfl

lemma readExtra_startField (hsize : e.size < zip64Mark) (hpacked : e.packedSize < zip64Mark)
    (he : e.start = min start zip64Mark) (hstart : start < UInt64.size) (n : Nat) :
    readExtra (n + 1) (startField start) e = .ok { e with start := start } := by
  rw [startField]
  split
  · rename_i hwide
    have hmark : e.start = zip64Mark := by
      rw [he, Nat.min_eq_right (Nat.le_of_lt (of_decide_eq_true hwide))]
    have hsplit : writeFields [(2, 1), (2, 8), (8, start)] =
        writeFields [(2, 1), (2, 8)] ++ (writeNumber 8 start ++ []) := rfl
    have hfields : readFields [2, 2] (writeFields [(2, 1), (2, 8)] ++ (writeNumber 8 start ++ [])) =
        .ok ([1, 8], writeNumber 8 start ++ []) := readFields_writeFields [(2, 1), (2, 8)] _
    rw [hsplit, readExtra, hfields]
    simp only [if_true]
    rw [readZip64Field_start hsize hpacked hmark hstart]
    exact readExtra_nil n _
  · rename_i hwide
    have hle : start ≤ zip64Mark := Nat.not_lt.mp fun hlt => hwide (decide_eq_true hlt)
    rw [Nat.min_eq_left hle] at he
    rw [← he]
    exact readExtra_nil _ _

end Extra

lemma startField_length_lt (start : Nat) : (startField start).length < 256 ^ 2 := by
  rw [startField]
  split <;> simp

lemma startField_of_not_isWide (h : isWide start = false) : startField start = [] :=
  if_neg (by rw [h]; exact Bool.false_ne_true)

def directoryFields (start : Nat) (r : Record) : List (Nat × Nat) :=
  (2, 0x032E) :: sharedHeader start r ++
    [(2, (startField start).length), (2, 0), (2, 0), (2, 0), (4, 0x81A40000),
      (4, min start zip64Mark)]

lemma readFields_directoryFields (start : Nat) (hr : r.Fits) (rest : Bytes) :
    ∃ needed modified made attributes, readFields [2, 2, 2, 2, 2, 2, 4, 4, 4, 2, 2, 2, 2, 2, 4, 4]
        (writeFields (directoryFields start r) ++ rest) =
      .ok ([made, needed, r.flags, 8, 0, modified, (checksum r.data).toNat,
        (deflateStored r.data).length, r.data.length, r.shown.length, (startField start).length,
        0, 0, 0, attributes, min start zip64Mark], rest) := by
  have hmark : zip64Mark < 256 ^ 4 := by decide
  have hsize := Nat.lt_of_le_of_lt (Inflate.length_le_deflateStored r.data) hr.data
  have hcrc : (checksum r.data).toNat < 256 ^ 4 := (checksum r.data).toNat_lt
  have hread := readFields_writeFields (directoryFields start r) rest
  simp only [directoryFields, sharedHeader, List.cons_append, List.nil_append, List.map_cons,
    List.map_nil, ← r.shown_length, Nat.mod_eq_of_lt hr.flags, Nat.mod_eq_of_lt hcrc,
    Nat.mod_eq_of_lt (Nat.lt_trans hr.data hmark), Nat.mod_eq_of_lt (Nat.lt_trans hsize hmark),
    Nat.mod_eq_of_lt (startField_length_lt start),
    Nat.mod_eq_of_lt (Nat.lt_of_le_of_lt (Nat.min_le_right start zip64Mark) hmark)] at hread
  exact ⟨_, _, _, _, hread⟩

lemma readDirectoryEntry_directoryEntry (hr : r.Fits)
    (hname : r.name.length < 256 ^ 2 ∨ isWide start = false) (hstart : start < UInt64.size) :
    readDirectoryEntry 0 (directoryEntry start r ++ rest) =
      .ok (r.entryAt start, r.hidden ++ rest) := by
  have hsize := Nat.lt_of_le_of_lt (Inflate.length_le_deflateStored r.data) hr.data
  have hswap : r.hidden ++ (startField start ++ rest) = startField start ++ (r.hidden ++ rest) := by
    rcases hname with hname | hwide
    · rw [Record.hidden_of_lt hname]
      rfl
    · rw [startField_of_not_isWide hwide]
      rfl
  have hentry : directoryEntry start r ++ rest =
      writeFields [(4, directoryMark)] ++ (writeFields (directoryFields start r) ++
        (r.shown ++ (startField start ++ (r.hidden ++ rest)))) := by
    rw [← hswap, ← List.append_assoc r.shown, r.shown_append_hidden, directoryEntry, directoryFields]
    simp only [writeFields_cons, writeFields_nil, List.cons_append, List.append_assoc,
      List.nil_append]
  have hmark : readFields [4] (directoryEntry start r ++ rest) =
      .ok ([directoryMark], writeFields (directoryFields start r) ++
        (r.shown ++ (startField start ++ (r.hidden ++ rest)))) := by
    rw [hentry]
    exact readFields_writeFields [(4, directoryMark)] _
  obtain ⟨needed, modified, made, attributes, hfields⟩ := readFields_directoryFields start hr
    (r.shown ++ (startField start ++ (r.hidden ++ rest)))
  rw [readDirectoryEntry, hmark]
  simp only [bind, Except.bind, ne_eq, not_true, if_false]
  rw [hfields]
  simp only [readBytes_append r.shown _ rfl, readBytes_append (startField start) _ rfl,
    show readBytes 0 (r.hidden ++ rest) = .ok ([], r.hidden ++ rest) from rfl, hr.plain]
  rw [readExtra_startField hsize hr.data rfl hstart]
  dsimp only
  rw [if_neg (fun h => absurd h.1 (by decide)), Nat.add_zero, if_neg (Nat.not_le.mpr hstart)]
  rfl

lemma readDirectory_succ {e : Entry} {s : Bytes} (h : readDirectoryEntry 0 s = .ok (e, rest))
    (count : Nat) :
    readDirectory 0 (count + 1) s = (readDirectory 0 count rest).map (e :: ·) := by
  rw [readDirectory, h]
  rfl

lemma readDirectory_writeEntries
    (hrs : ∀ r ∈ rs, r.Fits ∧ r.name.length < 256 ^ 2)
    (hend : start + (writeEntries start rs).1.length < UInt64.size) (count : Nat) :
    readDirectory 0 (rs.length + count) ((writeEntries start rs).2 ++ rest) =
      (readDirectory 0 count rest).map (entriesFrom start rs ++ ·) := by
  induction rs generalizing start with
  | nil =>
    rw [List.length_nil, Nat.zero_add]
    change readDirectory 0 count rest = _
    cases readDirectory 0 count rest <;> rfl
  | cons r rs ih =>
    obtain ⟨hr, hname⟩ := hrs r List.mem_cons_self
    have hlength : (writeEntries start (r :: rs)).1.length = (localEntry start r).length +
        (writeEntries (start + (localEntry start r).length) rs).1.length := List.length_append
    have hfirst : readDirectoryEntry 0 ((writeEntries start (r :: rs)).2 ++ rest) =
        .ok (r.entryAt start,
          (writeEntries (start + (localEntry start r).length) rs).2 ++ rest) := by
      rw [writeEntries, List.append_assoc, readDirectoryEntry_directoryEntry hr (.inl hname) (by omega),
        Record.hidden_of_lt hname, List.nil_append]
    rw [List.length_cons, Nat.add_right_comm, readDirectory_succ hfirst,
      ih (fun r hr => hrs r (List.mem_cons_of_mem _ hr)) (by omega)]
    cases readDirectory 0 count rest <;> rfl

lemma nameFlags_lt (name : String) : nameFlags name < 256 ^ 2 := by
  rw [nameFlags]
  split <;> decide

lemma nameFlags_plain (name : String) : (nameFlags name).testBit 0 = false := by
  rw [nameFlags]
  split <;> rfl

lemma Record.fits_of {data : Bytes} (h : (deflateStored data).length < zip64Mark) (name : String) :
    (Record.of name data).Fits :=
  ⟨nameFlags_lt name, nameFlags_plain name, h⟩

end ClassBatch.Archive
