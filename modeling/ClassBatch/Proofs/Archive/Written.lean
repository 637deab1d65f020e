import ClassBatch.Catalog
import ClassBatch.Proofs.Archive.Ends

/-! Archives read back. Within the limits of its fields an archive lists the names it was written with,
in their order, and each of its members has the data that were written under its name. -/

namespace ClassBatch.Archive

open Text (Bytes)

variable {r : Record} {rs : List Record} {start : Nat}

def parts (rs : List Record) : Bytes :=
  (writeEntries 0 rs).1

def directory (rs : List Record) : Bytes :=
  (writeEntries 0 rs).2

def lead (rs : List Record) : Bytes :=
  let (count, size, start) := (rs.length, (directory rs).length, (parts rs).length)
  parts rs ++ directory rs ++
    (if needsZip64 count size start then zip64End count size start else [])

lemma write_eq (rs : List Record) : writeRecords rs =
    lead rs ++ endRecord rs.length (directory rs).length (parts rs).length := by
  rw [lead, List.append_assoc]
  rfl

def endOf (rs : List Record) : DirectoryEnd :=
  endAt (lead rs).length rs.length (directory rs).length (parts rs).length

/-- Whether the last entry of an archive is taken for a locator, where there is none. -/
def Misled (rs : List Record) : Prop :=
  needsZip64 rs.length (directory rs).length (parts rs).length = false ∧
    endsInLocator (parts rs ++ directory rs) = true

lemma length_le_directory (start : Nat) (rs : List Record) :
    rs.length ≤ (writeEntries start rs).2.length := by
  induction rs generalizing start with
  | nil => exact Nat.le_refl 0
  | cons r rs ih =>
    have hentry : 1 ≤ (directoryEntry start r).length := by
      rw [directoryEntry, List.cons_append, writeFields_cons]
      simp only [List.length_append, writeNumber_length]
      omega
    have hrest := ih (start + (localEntry start r).length)
    change rs.length + 1 ≤ (_ ++ _ : Bytes).length
    rw [List.length_append]
    omega

instance (rs : List Record) : Decidable (Misled rs) :=
  inferInstanceAs (Decidable (_ ∧ _))

lemma startField_length_le (start : Nat) : (startField start).length ≤ 12 := by
  rw [startField]
  split <;> simp

lemma writeEntries_length_le (start : Nat) (rs : List Record) :
    (writeEntries start rs).1.length + (writeEntries start rs).2.length ≤
      (rs.map fun r => 88 + 2 * r.name.length + (deflateStored r.data).length).sum := by
  induction rs generalizing start with
  | nil => exact Nat.le_refl 0
  | cons r rs ih =>
    have hrest := ih (start + (localEntry start r).length)
    have hfield := startField_length_le start
    have hlocal : (localEntry start r).length =
        30 + r.name.length + (deflateStored r.data).length := by
      simp [localEntry, sharedHeader, Nat.add_assoc]
    have hdirectory : (directoryEntry start r).length =
        46 + r.name.length + (startField start).length := by
      simp [directoryEntry, sharedHeader, Nat.add_assoc]
    rw [List.map_cons, List.sum_cons, writeEntries]
    simp only [List.length_append]
    omega

lemma writeRecords_length_le (rs : List Record) : (writeRecords rs).length ≤
    (rs.map fun r => 88 + 2 * r.name.length + (deflateStored r.data).length).sum + 98 := by
  have hentries := writeEntries_length_le 0 rs
  rw [← parts, ← directory] at hentries
  have hend : (if needsZip64 rs.length (directory rs).length (parts rs).length then
      zip64End rs.length (directory rs).length (parts rs).length else []).length ≤ 76 := by
    split
    · rw [zip64End_eq, List.length_append, zip64Record_length, zip64Locator_length]
      decide
    · exact Nat.zero_le _
  have hrecord : endSize = 22 := rfl
  rw [write_eq, lead, List.length_append, List.length_append, List.length_append, endRecord_length]
  omega

lemma writeEntries_concat (start : Nat) (rs : List Record) (r : Record) :
    let last := start + (writeEntries start rs).1.length
    writeEntries start (rs ++ [r]) = ((writeEntries start rs).1 ++ localEntry last r,
      (writeEntries start rs).2 ++ directoryEntry last r) := by
  induction rs generalizing start with
  | nil => simp [writeEntries]
  | cons other rs ih =>
    have hrest := ih (start + (localEntry start other).length)
    have hlast : start + (writeEntries start (other :: rs)).1.length =
        start + (localEntry start other).length +
          (writeEntries (start + (localEntry start other).length) rs).1.length := by
      change start + (_ ++ _ : Bytes).length = _
      rw [List.length_append, Nat.add_assoc]
    intro last
    change last = _ at hlast
    rw [hlast, List.cons_append, writeEntries, hrest]
    simp only [writeEntries, List.append_assoc]

lemma plain_endAt {count size start place : Nat} (h : needsZip64 count size start = false)
    (hplace : place = start + size) :
    locateDirectory.plain (endAt place count size start) = .ok ⟨start, 0, count⟩ := by
  have hbound : count ≤ maxCount ∧ max size start ≤ zip64Mark := by
    simpa [needsZip64, isWide] using h
  have hsize : min size zip64Mark = size :=
    Nat.min_eq_left (Nat.le_trans (Nat.le_max_left _ _) hbound.2)
  have hstart : min start zip64Mark = start :=
    Nat.min_eq_left (Nat.le_trans (Nat.le_max_right _ _) hbound.2)
  have hcount : min count maxCount = count := Nat.min_eq_left hbound.1
  rw [locateDirectory.plain, endAt, hsize, hstart, hcount]
  dsimp only
  rw [if_pos (by omega), hplace, Nat.add_sub_cancel, Nat.sub_self]

lemma locateDirectory_write (hsize : (writeRecords rs).length < UInt64.size) (hled : ¬ Misled rs) :
    locateDirectory (writeRecords rs) (endOf rs) = .ok ⟨(parts rs).length, 0, rs.length⟩ := by
  have hcount : rs.length ≤ (directory rs).length := length_le_directory 0 rs
  have hlength : (parts rs).length + (directory rs).length ≤ (writeRecords rs).length := by
    rw [write_eq, lead]
    simp only [List.length_append]
    omega
  rw [write_eq, endOf]
  cases hwide : needsZip64 rs.length (directory rs).length (parts rs).length with
  | true =>
    rw [lead]
    simp only [hwide, if_true]
    exact locateDirectory_zip64 List.length_append (by omega) (by omega)
  | false =>
    have hlocator : endsInLocator (parts rs ++ directory rs) = false :=
      Bool.eq_false_iff.mpr fun h => hled ⟨hwide, h⟩
    rw [lead]
    simp only [hwide, Bool.false_eq_true, if_false, List.append_nil]
    rw [locateDirectory_plain hlocator]
    exact plain_endAt hwide List.length_append

lemma entries_write_eq (rs : List Record) : entries (writeRecords rs) =
    (locateDirectory (writeRecords rs) (endOf rs)).bind fun d =>
      readDirectory d.shift d.count ((writeRecords rs).drop d.start) := by
  rw [write_eq]
  exact entries_endRecord _ _ _ _

lemma entries_write (hsize : (writeRecords rs).length < UInt64.size) (hled : ¬ Misled rs) :
    ∃ tail, entries (writeRecords rs) = readDirectory 0 rs.length (directory rs ++ tail) := by
  refine ⟨(writeRecords rs).drop ((parts rs).length + (directory rs).length), ?_⟩
  have hdrop : (writeRecords rs).drop (parts rs).length = directory rs ++
      (writeRecords rs).drop ((parts rs).length + (directory rs).length) := by
    rw [write_eq, lead]
    simp only [List.append_assoc]
    rw [List.drop_left, ← List.drop_drop, List.drop_left, List.drop_left]
  rw [entries_write_eq, locateDirectory_write hsize hled, Except.bind, hdrop]

lemma parts_le (rs : List Record) : (parts rs).length ≤ (writeRecords rs).length := by
  rw [write_eq, lead]
  simp only [List.length_append]
  omega

/-- Within the limits of their fields, files are listed in their order. -/
theorem entries_write_of_fits (hrs : ∀ r ∈ rs, r.Fits ∧ r.name.length < 256 ^ 2)
    (hsize : (writeRecords rs).length < UInt64.size) (hled : ¬ Misled rs) :
    entries (writeRecords rs) = .ok (entriesFrom 0 rs) := by
  obtain ⟨tail, hentries⟩ := entries_write hsize hled
  have hend : 0 + (writeEntries 0 rs).1.length < UInt64.size := by
    rw [Nat.zero_add]
    exact Nat.lt_of_le_of_lt (parts_le rs) hsize
  rw [hentries]
  exact (readDirectory_writeEntries hrs hend 0).trans (congrArg Except.ok (List.append_nil _))

theorem entries_write_concat (hrs : ∀ r ∈ rs, r.Fits ∧ r.name.length < 256 ^ 2) (hr : r.Fits)
    (hstart : isWide (parts rs).length = false)
    (hsize : (writeRecords (rs ++ [r])).length < UInt64.size) (hled : ¬ Misled (rs ++ [r])) :
    entries (writeRecords (rs ++ [r])) = .ok (entriesFrom 0 rs ++ [r.entryAt (parts rs).length]) := by
  obtain ⟨tail, hentries⟩ := entries_write hsize hled
  have hconcat := writeEntries_concat 0 rs r
  rw [Nat.zero_add] at hconcat
  have hend : (parts rs).length < UInt64.size := by
    refine Nat.lt_of_le_of_lt ?_ (Nat.lt_of_le_of_lt (parts_le (rs ++ [r])) hsize)
    rw [parts, parts, hconcat, List.length_append]
    exact Nat.le_add_right _ _
  have hlast : readDirectory 0 1 (directoryEntry (parts rs).length r ++ tail) =
      (readDirectory 0 0 (r.hidden ++ tail)).map (r.entryAt (parts rs).length :: ·) :=
    readDirectory_succ (readDirectoryEntry_directoryEntry hr (.inr hstart) hend) 0
  rw [hentries, directory, hconcat, List.append_assoc, List.length_append]
  refine (readDirectory_writeEntries hrs (by rwa [Nat.zero_add]) 1).trans ?_
  rw [parts] at hlast
  rw [hlast]
  rfl

lemma lead_concat {stem ending : Bytes} (rs : List Record) (hname : r.name = stem ++ ending)
    (hwide : needsZip64 (rs ++ [r]).length (directory (rs ++ [r])).length
      (parts (rs ++ [r])).length = false) :
    ∃ front : Bytes, 15 ≤ front.length ∧ lead (rs ++ [r]) = front ++ ending := by
  have hconcat := writeEntries_concat 0 rs r
  have hbound : (parts (rs ++ [r])).length ≤ zip64Mark := by
    have hboth := (Bool.or_eq_false_iff.mp hwide).2
    exact Nat.le_trans (Nat.le_max_right _ _) (Nat.not_lt.mp (of_decide_eq_false hboth))
  have hstart : isWide (0 + (writeEntries 0 rs).1.length) = false := by
    rw [parts, hconcat, List.length_append] at hbound
    exact decide_eq_false (by omega)
  rw [lead]
  simp only [hwide, Bool.false_eq_true, if_false, List.append_nil]
  rw [directory, hconcat, directoryEntry, startField_of_not_isWide hstart, hname]
  simp only [List.append_nil, ← List.append_assoc]
  refine ⟨_, ?_, rfl⟩
  simp only [List.length_append, writeFields_length, List.map_append, List.map_cons, List.sum_append,
    List.sum_cons, sharedHeader]
  omega

lemma not_misled_concat {stem ending : Bytes} {mark : Nat} {rest : Bytes} (rs : List Record)
    (hname : r.name = stem ++ ending) (hlength : ending.length = locatorSize)
    (hmark : readNumber? 4 ending = some (mark, rest)) (hne : mark ≠ zip64LocatorMark) :
    ¬ Misled (rs ++ [r]) := by
  rintro ⟨hwide, hlocator⟩
  obtain ⟨front, -, hlead⟩ := lead_concat rs hname hwide
  rw [lead] at hlead
  simp only [hwide, Bool.false_eq_true, if_false, List.append_nil] at hlead
  rw [hlead, endsInLocator, List.length_append, hlength, Nat.add_sub_cancel, List.drop_left, hmark]
    at hlocator
  simp [hne] at hlocator

def javaEnding : Bytes :=
  [0x2E, 0x6A, 0x61, 0x76, 0x61]

lemma entries_write_of_misled (hnames : ∀ r ∈ rs, ∃ stem, r.name = stem ++ javaEnding)
    (hsize : (writeRecords rs).length < 2 ^ 61) (hled : Misled rs) :
    ∃ cause, entries (writeRecords rs) = .error cause := by
  obtain ⟨hwide, hlocator⟩ := hled
  have hlead : lead rs = parts rs ++ directory rs := by
    rw [lead]
    simp only [hwide, Bool.false_eq_true, if_false, List.append_nil]
  obtain rfl | ⟨init, r, rfl⟩ := List.eq_nil_or_concat' rs
  · cases hlocator
  · obtain ⟨stem, hname⟩ := hnames r (List.mem_append_right _ List.mem_cons_self)
    obtain ⟨front, hfront, hjava⟩ := lead_concat init hname hwide
    -- the number in the supposed locator ends in the dot, and so is beyond any place in the archive
    have hplace : (front ++ javaEnding).length < 0x2E * 256 ^ 7 := by
      refine Nat.lt_trans (Nat.lt_of_le_of_lt ?_ hsize) (by decide)
      rw [write_eq, hjava]
      simp only [List.length_append]
      omega
    rw [← hlead, hjava] at hlocator
    obtain ⟨cause, hlocate⟩ := locateDirectory_of_high rfl hfront hlocator hplace
    refine ⟨cause, ?_⟩
    rw [entries_write_eq, endOf, write_eq, hjava]
    exact congrArg (Except.bind · _) hlocate

section Members

open Catalog

variable {before : Bytes}

lemma opened_entryAt (hbefore : before.length = start) (hname : r.name.length < 256 ^ 2)
    (rest : Bytes) : (r.entryAt start).opened (before ++ (localEntry start r ++ rest)) =
      .ok (deflateStored r.data) := by
  have hlocal : localEntry start r ++ rest = writeFields [(4, localMark)] ++
      (writeFields ((sharedHeader start r).take 8) ++
        (writeFields [(2, r.name.length), (2, 0)] ++ (r.name ++ (deflateStored r.data ++ rest)))) := by
    rw [localEntry, sharedHeader]
    simp only [List.cons_append, List.nil_append, writeFields_cons, writeFields_nil,
      List.append_assoc, List.take]
  have hmark : ∀ rest, readFields [4] (writeFields [(4, localMark)] ++ rest) =
      .ok ([localMark], rest) := readFields_writeFields [(4, localMark)]
  have hlengths : ∀ rest, readFields [2, 2] (writeFields [(2, r.name.length), (2, 0)] ++ rest) =
      .ok ([r.name.length, 0], rest) := by
    intro rest
    have hread := readFields_writeFields [(2, r.name.length), (2, 0)] rest
    simp only [List.map_cons, List.map_nil, Nat.mod_eq_of_lt hname] at hread
    exact hread
  have hskip : (writeFields ((sharedHeader start r).take 8)).length = 22 := by
    rw [writeFields_length]
    rfl
  rw [Entry.opened, show (r.entryAt start).start = before.length from hbefore.symm,
    List.drop_left, hlocal, hmark]
  simp only [bind, Except.bind, Record.entryAt, ne_eq, not_true, if_false, Bool.false_eq_true]
  rw [List.drop_left' hskip, hlengths]
  simp only [and_false, if_false]
  rw [Nat.add_zero, List.drop_left, List.take_left]
  rfl

lemma unpacked_entryAt (r : Record) (start : Nat) :
    (r.entryAt start).unpacked (deflateStored r.data) = .ok r.data := by
  rw [Entry.unpacked]
  simp [Record.entryAt, Inflate.inflate?_deflateStored, bind, Except.bind, pure, Except.pure]

lemma read_entryAt (hdata : (deflateStored r.data).length < zip64Mark) (start : Nat) :
    Member.read ⟨r.entryAt start, deflateStored r.data⟩ = .ok r.data := by
  have hsize : ¬ maxCapacity < (r.entryAt start).size := by
    have hlength := Inflate.length_le_deflateStored r.data
    have hmark : zip64Mark < maxCapacity := by decide
    change ¬ maxCapacity < r.data.length
    omega
  rw [Member.read, if_neg hsize, unpacked_entryAt]
  rfl

lemma opened_entriesFrom (hbefore : before.length = start)
    (hrs : ∀ r ∈ rs, r.Fits ∧ r.name.length < 256 ^ 2) (rest : Bytes) : ∃ ms : List Member,
    (entriesFrom start rs).map (fun entry =>
      (entry.opened (before ++ ((writeEntries start rs).1 ++ rest))).map (Member.mk entry)) =
        ms.map .ok ∧
    ms.map (fun m => (m.name, m.read)) = rs.map fun r => (decodeName r.flags r.name, .ok r.data) := by
  induction rs generalizing before start with
  | nil => exact ⟨[], rfl, rfl⟩
  | cons r rs ih =>
    obtain ⟨hr, hname⟩ := hrs r List.mem_cons_self
    have hlength : (before ++ localEntry start r).length = start + (localEntry start r).length := by
      rw [List.length_append, hbefore]
    obtain ⟨ms, hopened, hread⟩ := ih hlength fun r hr => hrs r (List.mem_cons_of_mem _ hr)
    refine ⟨⟨r.entryAt start, deflateStored r.data⟩ :: ms, ?_, ?_⟩
    · rw [entriesFrom, List.map_cons, List.map_cons, writeEntries]
      simp only [List.append_assoc] at hopened ⊢
      rw [opened_entryAt hbefore hname, hopened]
      rfl
    · rw [List.map_cons, List.map_cons, read_entryAt hr.data, hread, ← Record.shown_of_lt hname]
      rfl

theorem members_writeRecords (hrs : ∀ r ∈ rs, r.Fits ∧ r.name.length < 256 ^ 2)
    (hsize : (writeRecords rs).length < UInt64.size) (hled : ¬ Misled rs) : ∃ ms : List Member,
    members (writeRecords rs) = .ok (ms.map .ok) ∧
    ms.map (fun m => (m.name, m.read)) = rs.map fun r => (decodeName r.flags r.name, .ok r.data) := by
  have hnone : ([] : Bytes).length = 0 := rfl
  obtain ⟨ms, hopened, hread⟩ := opened_entriesFrom hnone hrs
    (directory rs ++ directoryEnd rs.length (directory rs).length (parts rs).length)
  have hwrite : [] ++ ((writeEntries 0 rs).1 ++ (directory rs ++
      directoryEnd rs.length (directory rs).length (parts rs).length)) = writeRecords rs := by
    rw [List.nil_append, ← List.append_assoc]
    rfl
  rw [hwrite] at hopened
  refine ⟨ms, ?_, hread⟩
  rw [members, entries_write_of_fits hrs hsize hled, ← hopened]
  rfl

end Members

section Files

variable {files : List (String × Bytes)} {es : List Entry}

/-- Files that the fields of an archive hold. -/
structure Fits (files : List (String × Bytes)) : Prop where
  names : ∀ file ∈ files, (Text.encode file.1).length < 256 ^ 2
  data : ∀ file ∈ files, (deflateStored file.2).length < zip64Mark
  size : (write files).length < 2 ^ 61

lemma Fits.record (h : Fits files) : ∀ r ∈ records files, r.Fits ∧ r.name.length < 256 ^ 2 := by
  rintro _ hr
  obtain ⟨⟨name, data⟩, hfile, rfl⟩ := List.mem_map.mp hr
  exact ⟨Record.fits_of (h.data _ hfile) name, h.names _ hfile⟩

lemma Fits.size_lt (h : Fits files) : (writeRecords (records files)).length < UInt64.size :=
  Nat.lt_trans h.size (by decide)

lemma records_read (files : List (String × Bytes)) :
    (records files).map (fun r => (decodeName r.flags r.name, r.data)) = files := by
  rw [records, List.map_map]
  refine (List.map_congr_left fun file _ => ?_).trans (List.map_id _)
  exact congrArg (·, file.2) (decodeName_encode file.1)

theorem names_of_entries_write (h : Fits files)
    (hnames : ∀ file ∈ files, ∃ stem, file.1 = stem ++ ".java")
    (hentries : entries (write files) = .ok es) : es.map Entry.name = files.map Prod.fst := by
  by_cases hled : Misled (records files)
  · have hjava : Text.encode ".java" = javaEnding := by decide
    have hstems : ∀ r ∈ records files, ∃ stem, r.name = stem ++ javaEnding := by
      intro r hr
      obtain ⟨⟨name, data⟩, hfile, rfl⟩ := List.mem_map.mp hr
      obtain ⟨stem, rfl⟩ : ∃ stem, name = stem ++ ".java" := hnames _ hfile
      exact ⟨Text.encode stem, (Text.encode_append stem ".java").trans (by rw [hjava])⟩
    obtain ⟨cause, herror⟩ := entries_write_of_misled hstems h.size hled
    rw [write, herror] at hentries
    cases hentries
  · rw [write, entries_write_of_fits h.record h.size_lt hled] at hentries
    cases hentries
    rw [entriesFrom_names]
    conv_rhs => rw [← records_read files, List.map_map]
    exact List.map_congr_left fun r hr => by rw [Record.shown_of_lt (h.record r hr).2]; rfl

end Files

end ClassBatch.Archive
