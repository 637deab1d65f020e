import ClassBatch.Proofs.Archive.Directory

/-! The end of a written archive. The last place that may hold the mark of an end record does, so the
search for it goes no further; behind it the directory is found, unless what stands right before it looks
like the record that leads to a zip64 end. -/

namespace ClassBatch.Archive

open Text (Bytes)

variable {before : Bytes} {count size start : Nat}

lemma lastEnd_of_lt {lowest highest place : Nat} {found : Option Nat} (h : highest < place)
    (s : Bytes) : lastEnd lowest highest place found s = found := by
  induction s generalizing place with
  | nil => rfl
  | cons b s ih =>
    have hnot : decide (place ≤ highest) = false := decide_eq_false (Nat.not_le.mpr h)
    rw [lastEnd]
    simp only [hnot, Bool.and_false, Bool.false_and, Bool.false_eq_true, if_false]
    exact ih (Nat.lt_succ_of_lt h)

lemma lastEnd_append (lowest highest place : Nat) (found : Option Nat) (before s : Bytes) :
    ∃ found', lastEnd lowest highest place found (before ++ s) =
      lastEnd lowest highest (place + before.length) found' s := by
  induction before generalizing place found with
  | nil => exact ⟨found, rfl⟩
  | cons b before ih =>
    rw [List.cons_append, lastEnd, List.length_cons, Nat.add_comm before.length, ← Nat.add_assoc]
    exact ih _ _

def endRecord (count size start : Nat) : Bytes :=
  writeFields [(4, directoryEndMark), (2, 0), (2, 0), (2, min count maxCount),
    (2, min count maxCount), (4, min size zip64Mark), (4, min start zip64Mark), (2, 0)]

@[simp]
lemma endRecord_length (count size start : Nat) : (endRecord count size start).length = endSize := by
  rw [endRecord, writeFields_length]
  rfl

lemma lastEnd_endRecord (before : Bytes) (count size start lowest : Nat) (found : Option Nat)
    (hlowest : lowest ≤ before.length) :
    lastEnd lowest before.length 0 found (before ++ endRecord count size start) =
      some before.length := by
  obtain ⟨found', hbefore⟩ := lastEnd_append lowest before.length 0 found before
    (endRecord count size start)
  have hcons : ∃ tail, endRecord count size start = 0x50 :: tail := ⟨_, rfl⟩
  obtain ⟨tail, hcons⟩ := hcons
  have hmark : readNumber? 4 (endRecord count size start) = some (directoryEndMark, _) :=
    readNumber?_writeNumber 4 directoryEndMark _
  rw [hbefore, Nat.zero_add]
  rw [hcons] at hmark ⊢
  rw [lastEnd, lastEnd_of_lt (Nat.lt_succ_self _)]
  simp [hlowest, hmark]

def endAt (place count size start : Nat) : DirectoryEnd where
  place := place
  disk := 0
  directoryDisk := 0
  entriesHere := min count maxCount
  entries := min count maxCount
  size := min size zip64Mark
  offset := min start zip64Mark
  commentLength := 0

lemma readEnd_endRecord (before : Bytes) (count size start : Nat) :
    readEnd (before ++ endRecord count size start) = .ok (endAt before.length count size start) := by
  have hlength : (before ++ endRecord count size start).length = before.length + endSize := by
    rw [List.length_append, endRecord_length]
  have hcount : min count maxCount % 256 ^ 2 = min count maxCount :=
    Nat.mod_eq_of_lt (Nat.lt_of_le_of_lt (Nat.min_le_right _ _) (by decide))
  have hwide : ∀ n, min n zip64Mark % 256 ^ 4 = min n zip64Mark := fun n =>
    Nat.mod_eq_of_lt (Nat.lt_of_le_of_lt (Nat.min_le_right _ _) (by decide))
  have hfields : readFields [4, 2, 2, 2, 2, 4, 4, 2] (endRecord count size start) =
      .ok ([directoryEndMark, 0, 0, min count maxCount, min count maxCount, min size zip64Mark,
        min start zip64Mark, 0], []) := by
    have hread := readFields_writeFields [(4, directoryEndMark), (2, 0), (2, 0),
      (2, min count maxCount), (2, min count maxCount), (4, min size zip64Mark),
      (4, min start zip64Mark), (2, 0)] []
    simp only [List.map_cons, List.map_nil, hcount, hwide, List.append_nil] at hread
    exact hread
  rw [readEnd, if_neg (by rw [hlength]; omega), hlength, Nat.add_sub_cancel]
  simp only [lastEnd_endRecord before count size start _ none (Nat.sub_le _ _), List.drop_left,
    hfields]
  rfl

lemma entries_endRecord (before : Bytes) (count size start : Nat) :
    let s := before ++ endRecord count size start
    entries s = (locateDirectory s (endAt before.length count size start)).bind fun d =>
      readDirectory d.shift d.count (s.drop d.start) := by
  intro s
  have hdisks : ((!(endAt before.length count size start).overflows) &&
      (endAt before.length count size start).disk !=
        (endAt before.length count size start).directoryDisk) = false := Bool.and_false _
  rw [entries, readEnd_endRecord]
  simp only [bind, Except.bind]
  rw [hdisks, if_neg Bool.false_ne_true]

def locatorSize : Nat := 20

def endsInLocator (s : Bytes) : Bool :=
  locatorSize ≤ s.length &&
    (readNumber? 4 (s.drop (s.length - locatorSize))).any fun (mark, _) => mark == zip64LocatorMark

lemma readFields_locator {s : Bytes} (h : s.length = locatorSize) (rest : Bytes) :
    ∃ mark disk announced last, readNumber? 4 s = some (mark, s.drop 4) ∧
      readNumber? 8 (s.drop 8) = some (announced, s.drop 16) ∧
      readFields [4, 4, 8, 4] (s ++ rest) = .ok ([mark, disk, announced, last], rest) := by
  have hsize : locatorSize = 20 := rfl
  obtain ⟨mark, hmark⟩ := readNumber?_append (n := 4) (s := s) (by omega)
  obtain ⟨disk, hdisk⟩ := readNumber?_append (n := 4) (s := s.drop 4) (by rw [List.length_drop]; omega)
  obtain ⟨announced, hannounced⟩ :=
    readNumber?_append (n := 8) (s := s.drop 8) (by rw [List.length_drop]; omega)
  obtain ⟨last, hlast⟩ :=
    readNumber?_append (n := 4) (s := s.drop 16) (by rw [List.length_drop]; omega)
  rw [List.drop_drop] at hdisk hannounced hlast
  have hnil : s.drop 20 = [] := List.drop_eq_nil_of_le (Nat.le_of_eq h)
  refine ⟨mark, disk, announced, last, ?_, ?_, ?_⟩
  · simpa only [List.append_nil] using hmark []
  · simpa only [List.append_nil] using hannounced []
  · simp only [readFields, hmark, hdisk, hannounced, hlast, hnil, List.nil_append, bind, Except.bind,
      pure, Except.pure]

lemma locateDirectory_of_short (h : before.length < locatorSize) :
    locateDirectory (before ++ endRecord count size start) (endAt before.length count size start) =
      locateDirectory.plain (endAt before.length count size start) := by
  have hsize : locatorSize = 20 := rfl
  have hend : endSize = 22 := rfl
  have hback : ¬ 20 + endSize + (endAt before.length count size start).commentLength ≤
      (before ++ endRecord count size start).length := by
    rw [List.length_append, endRecord_length]
    change ¬ 20 + endSize + 0 ≤ _
    omega
  simp only [locateDirectory, if_neg hback]

lemma locateDirectory_of_long {mark disk announced last : Nat} {rest : Bytes}
    (h : locatorSize ≤ before.length)
    (hfields : readFields [4, 4, 8, 4] (before.drop (before.length - locatorSize) ++
      endRecord count size start) = .ok ([mark, disk, announced, last], rest)) :
    locateDirectory (before ++ endRecord count size start) (endAt before.length count size start) =
      if mark = zip64LocatorMark then
        readZip64 (before ++ endRecord count size start) (endAt before.length count size start)
          disk announced
      else locateDirectory.plain (endAt before.length count size start) := by
  have hsize : locatorSize = 20 := rfl
  have hend : endSize = 22 := rfl
  have hlength : (before ++ endRecord count size start).length = before.length + endSize := by
    rw [List.length_append, endRecord_length]
  have hback : 20 + endSize + (endAt before.length count size start).commentLength ≤
      (before ++ endRecord count size start).length := by
    change 20 + endSize + 0 ≤ _
    omega
  have hplace : (before ++ endRecord count size start).length -
      (20 + endSize + (endAt before.length count size start).commentLength) =
        before.length - locatorSize := by
    change _ - (20 + endSize + 0) = _
    omega
  rw [locateDirectory]
  simp only [if_pos hback, hplace]
  rw [List.drop_append_of_le_length (Nat.sub_le _ _), hfields]
  rfl

lemma length_drop_locator (h : locatorSize ≤ before.length) :
    (before.drop (before.length - locatorSize)).length = locatorSize := by
  rw [List.length_drop]
  omega

lemma locateDirectory_plain (h : endsInLocator before = false) :
    locateDirectory (before ++ endRecord count size start) (endAt before.length count size start) =
      locateDirectory.plain (endAt before.length count size start) := by
  rcases Nat.lt_or_ge before.length locatorSize with hshort | hlong
  · exact locateDirectory_of_short hshort
  · obtain ⟨mark, disk, announced, last, hmark, -, hfields⟩ :=
      readFields_locator (length_drop_locator hlong) (endRecord count size start)
    have hne : mark ≠ zip64LocatorMark := by
      rintro rfl
      simp [endsInLocator, hlong, hmark] at h
    rw [locateDirectory_of_long hlong hfields, if_neg hne]

lemma readZip64_of_lt {s : Bytes} {e : DirectoryEnd} {announced : Nat} (h : e.place < announced)
    (disk : Nat) : ∃ cause, readZip64 s e disk announced = .error cause := by
  have hhighest : e.place - 60 < announced := Nat.lt_of_le_of_lt (Nat.sub_le _ _) h
  rw [readZip64]
  split
  · exact ⟨_, rfl⟩
  · split
    · exact ⟨_, rfl⟩
    · rw [findZip64End, if_pos hhighest]
      exact ⟨_, rfl⟩

lemma locateDirectory_of_high {front back : Bytes} {b : UInt8} (hback : back.length = 4)
    (hfront : 15 ≤ front.length) (hlocator : endsInLocator (front ++ b :: back) = true)
    (hplace : (front ++ b :: back).length < b.toNat * 256 ^ 7) : ∃ cause,
    locateDirectory ((front ++ b :: back) ++ endRecord count size start)
      (endAt (front ++ b :: back).length count size start) = .error cause := by
  have hsize : locatorSize = 20 := rfl
  have hlength : (front ++ b :: back).length = front.length + 5 := by
    rw [List.length_append, List.length_cons, hback]
  have hlong : locatorSize ≤ (front ++ b :: back).length := by omega
  obtain ⟨mark, disk, announced, last, hmark, hannounced, hfields⟩ :=
    readFields_locator (length_drop_locator hlong) (endRecord count size start)
  have hlower : (front.drop (front.length - 7)).length = 7 := by
    rw [List.length_drop]
    omega
  have hlast : ((front ++ b :: back).drop ((front ++ b :: back).length - locatorSize)).drop 8 =
      front.drop (front.length - 7) ++ b :: back := by
    rw [List.drop_drop, hlength, show front.length + 5 - locatorSize + 8 = front.length - 7 by omega,
      List.drop_append_of_le_length (Nat.sub_le _ _)]
  rw [hlast] at hannounced
  have hle := le_of_readNumber? (by rw [hlower]; exact hannounced)
  rw [hlower] at hle
  have hmark' : mark = zip64LocatorMark := by
    rw [endsInLocator, hmark] at hlocator
    simpa using ((Bool.and_eq_true _ _).mp hlocator).2
  rw [locateDirectory_of_long hlong hfields, if_pos hmark']
  exact readZip64_of_lt (Nat.lt_of_lt_of_le hplace hle) disk

def zip64Record (count size start : Nat) : Bytes :=
  writeFields [(4, zip64EndMark), (8, 44), (2, 46), (2, 46), (4, 0), (4, 0), (8, count), (8, count),
    (8, size), (8, start)]

def zip64Locator (place : Nat) : Bytes :=
  writeFields [(4, zip64LocatorMark), (4, 0), (8, place), (4, 1)]

lemma zip64End_eq (count size start : Nat) :
    zip64End count size start = zip64Record count size start ++ zip64Locator (start + size) :=
  rfl

@[simp]
lemma zip64Record_length (count size start : Nat) : (zip64Record count size start).length = 56 := by
  rw [zip64Record, writeFields_length]
  rfl

@[simp]
lemma zip64Locator_length (place : Nat) : (zip64Locator place).length = locatorSize := by
  rw [zip64Locator, writeFields_length]
  rfl

lemma readFields_zip64Record (hcount : count < UInt64.size) (hsize : size < UInt64.size)
    (hstart : start < UInt64.size) (rest : Bytes) :
    readFields [4, 8, 2, 2, 4, 4, 8, 8, 8, 8] (zip64Record count size start ++ rest) =
      .ok ([zip64EndMark, 44, 46, 46, 0, 0, count, count, size, start], rest) := by
  have hread := readFields_writeFields [(4, zip64EndMark), (8, 44), (2, 46), (2, 46), (4, 0), (4, 0),
    (8, count), (8, count), (8, size), (8, start)] rest
  have hword : ∀ n < UInt64.size, n % 256 ^ 8 = n := fun n hn => Nat.mod_eq_of_lt hn
  simp only [List.map_cons, List.map_nil, hword _ hcount, hword _ hsize, hword _ hstart] at hread
  exact hread

lemma readFields_zip64Locator {place : Nat} (hplace : place < UInt64.size) (rest : Bytes) :
    readFields [4, 4, 8, 4] (zip64Locator place ++ rest) =
      .ok ([zip64LocatorMark, 0, place, 1], rest) := by
  have hread := readFields_writeFields [(4, zip64LocatorMark), (4, 0), (8, place), (4, 1)] rest
  have hword : place % 256 ^ 8 = place := Nat.mod_eq_of_lt hplace
  simp only [List.map_cons, List.map_nil, hword] at hread
  exact hread

lemma locateDirectory_zip64 {lead : Bytes} (hlead : lead.length = start + size)
    (hcount : count < UInt64.size) (hend : start + size < UInt64.size) :
    let before := lead ++ zip64End count size start
    locateDirectory (before ++ endRecord count size start) (endAt before.length count size start) =
      .ok ⟨start, 0, count⟩ := by
  intro before
  have hsize : locatorSize = 20 := rfl
  have hbefore : before = (lead ++ zip64Record count size start) ++ zip64Locator (start + size) := by
    rw [List.append_assoc]
    rfl
  have hlength : before.length = start + size + 56 + locatorSize := by
    rw [hbefore, List.length_append, List.length_append, zip64Record_length, zip64Locator_length, hlead]
  have hlast : before.drop (before.length - locatorSize) = zip64Locator (start + size) := by
    rw [hlength, Nat.add_sub_cancel, hbefore, List.drop_left' (by simp [hlead])]
  have hplace : (before ++ endRecord count size start).drop (start + size) =
      zip64Record count size start ++
        (zip64Locator (start + size) ++ endRecord count size start) := by
    rw [hbefore, List.append_assoc, List.append_assoc, List.drop_left' hlead]
  have hfields := readFields_zip64Locator hend (endRecord count size start)
  rw [locateDirectory_of_long (by omega) (hlast ▸ hfields), if_pos rfl, readZip64]
  have hover : (!(endAt before.length count size start).overflows &&
      (endAt before.length count size start).disk != 0) = false := by
    rw [show ((endAt before.length count size start).disk != 0) = false from rfl, Bool.and_false]
  have hroom : ¬ (endAt before.length count size start).place < 60 := by
    change ¬ before.length < 60
    omega
  have hhighest : ¬ (endAt before.length count size start).place - 60 < start + size := by
    change ¬ before.length - 60 < start + size
    omega
  have hmark : ∀ rest, readNumber? 4 (zip64Record count size start ++ rest) = some (zip64EndMark, _) :=
    fun rest => readNumber?_writeNumber 4 zip64EndMark _
  rw [hover, if_neg Bool.false_ne_true, if_neg hroom, hplace, findZip64End, if_neg hhighest, hmark]
  simp only [if_true, bind, Except.bind, hplace]
  rw [readFields_zip64Record hcount (by omega) (by omega)]
  simp [Nat.not_le.mpr (show start < UInt64.size by omega)]
  rfl

end ClassBatch.Archive
