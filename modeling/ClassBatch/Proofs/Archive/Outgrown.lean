import ClassBatch.Program
import ClassBatch.Proofs.Archive.Written
import ClassBatch.Proofs.Catalog.Segments

/-! Names that outgrow their entries. A byte that no character begins with is read as a character of
three bytes, so a name may become longer than the length in front of it can tell when it is written
again; what is read back then is a part of it. -/

namespace ClassBatch.Archive

open Catalog Files
open Text (Bytes)

variable (n : Nat)

def faulty : List Char :=
  'a' :: '/' :: '.' :: '.' :: (List.replicate n '\ufffd' ++ ['x', 'x'])

def faultyName : String :=
  String.ofList (faulty n)

def faultyEntry : Bytes :=
  Text.encode "a/.." ++ (List.replicate n 0xFF ++ Text.encode "xx.class")

def faultyRecords : List Record :=
  [.of "A.class" [], ⟨0x800, faultyEntry n, []⟩]

def faultyJar : Disk where
  tree := ⟨.dir [("app.jar", .file (writeRecords (faultyRecords n)) false)]⟩

lemma className?_faulty : className? (String.ofList (faulty n ++ ending)) = some (faultyName n) := by
  have hnul : '\x00' ∉ faulty n := by
    simp [faulty]
  have hbackslash : '\x5c' ∉ faulty n := by
    simp [faulty]
  have hrest : ∀ c ∈ '.' :: '.' :: (List.replicate n '\ufffd' ++ ['x', 'x']), isSlash c = false := by
    intro c hc
    have hc' : c = '.' ∨ c = '\ufffd' ∨ c = 'x' := by
      simp only [List.mem_cons, List.mem_append, List.mem_replicate, List.not_mem_nil] at hc
      tauto
    rcases hc' with rfl | rfl | rfl <;> decide
  have hsplit : Text.splitAll isSlash (faulty n) =
      [['a'], '.' :: '.' :: (List.replicate n '\ufffd' ++ ['x', 'x'])] := by
    have htail := Text.splitAll_cons_of_sep (p := isSlash) (c := '/') rfl
      ('.' :: '.' :: (List.replicate n '\ufffd' ++ ['x', 'x']))
    rw [Text.splitAll_of_forall_not_sep hrest] at htail
    exact Text.splitAll_cons_of_not_sep rfl htail
  rw [className?_eq_some]
  refine ⟨(isContained_append_ending (faulty n) String.toList_ofList).mpr ⟨hnul, ?_⟩, faulty n,
    String.toList_ofList, ?_⟩
  · rw [hsplit]
    exact List.forall_mem_singleton.mpr rfl
  · rw [faultyName, String.toList_ofList, map_forward_eq_self_iff.mpr hbackslash]

lemma decodeName_faultyEntry :
    decodeName 0x800 (faultyEntry n) = String.ofList (faulty n ++ ending) := by
  change Text.decodeLossy (faultyEntry n) = _
  rw [faultyEntry, Text.decodeLossy_faults, faulty]
  congr 1
  simp only [List.cons_append, List.append_assoc]
  rfl

lemma sorted_faulty : Names.sorted ["A", faultyName n] = ["A", faultyName n] := by
  have hlt : "A" < faultyName n := by
    rw [String.lt_iff_toList_lt, faultyName, String.toList_ofList (l := faulty n)]
    exact List.Lex.rel (by decide : 'A' < 'a')
  exact Names.Ordered.sorted_eq (List.pairwise_pair.mpr hlt)

variable {n}

lemma faultyEntry_length : (faultyEntry n).length = n + 12 := by
  have hstart : (Text.encode "a/..").length = 4 := by decide
  have hend : (Text.encode "xx.class").length = 8 := by decide
  rw [faultyEntry, List.length_append, List.length_append, List.length_replicate, hstart, hend]
  omega

lemma not_misled_faultyRecords (hn : 12 ≤ n) : ¬ Misled (faultyRecords n) := by
  obtain ⟨m, rfl⟩ := Nat.exists_eq_add_of_le' hn
  have hname : faultyEntry (m + 12) = (Text.encode "a/.." ++ List.replicate m 0xFF) ++
      (List.replicate 12 0xFF ++ Text.encode "xx.class") := by
    simp only [faultyEntry, List.replicate_add, List.append_assoc]
  have hmark : readNumber? 4 (List.replicate 12 0xFF ++ Text.encode "xx.class") =
      some (0xFFFFFFFF, List.replicate 8 0xFF ++ Text.encode "xx.class") := by decide
  exact not_misled_concat (r := ⟨0x800, faultyEntry (m + 12), []⟩) [Record.of "A.class" []] hname
    (by decide) hmark (by decide)

lemma openJar_faulty (hn : 12 ≤ n) (hn' : n < 60000) : ∃ ms : List Member,
    openJar (faultyJar n) "app.jar" = .ok (ms.map .ok) ∧
      ms.map Member.name = ["A.class", String.ofList (faulty n ++ ending)] := by
  have hlength : (faultyEntry n).length = n + 12 := faultyEntry_length
  have hfirst : (Text.encode "A.class").length = 7 := by decide
  have hdata : (deflateStored []).length < zip64Mark := by
    rw [Inflate.deflateStored_nil_length]
    decide
  have hfirstLength : (Text.encode "A.class").length < 256 ^ 2 := by
    rw [hfirst]
    decide
  have hentryLength : (faultyEntry n).length < 256 ^ 2 := by omega
  have hflags : 0x800 < 256 ^ 2 := by decide
  have hplain : Nat.testBit 0x800 0 = false := by decide
  have hrs : ∀ r ∈ faultyRecords n, r.Fits ∧ r.name.length < 256 ^ 2 := by
    intro r hr
    rcases List.mem_pair.mp hr with rfl | rfl
    · exact ⟨Record.fits_of hdata _, hfirstLength⟩
    · exact ⟨⟨hflags, hplain, hdata⟩, hentryLength⟩
  have hsize : (writeRecords (faultyRecords n)).length < UInt64.size := by
    refine Nat.lt_of_le_of_lt (writeRecords_length_le _) ?_
    simp only [faultyRecords, List.map_cons, List.map_nil, List.sum_cons, List.sum_nil, hfirst, hlength,
      Record.of, Inflate.deflateStored_nil_length, UInt64.size]
    omega
  obtain ⟨ms, hmembers, hread⟩ := members_writeRecords hrs hsize (not_misled_faultyRecords hn)
  have hjar : ∀ content, (⟨⟨.dir [("app.jar", .file content false)]⟩, []⟩ : Disk).read "app.jar" =
      .ok content := fun content => rfl
  refine ⟨ms, openJar_eq_ok_iff.mpr ⟨_, hjar _, hmembers⟩, ?_⟩
  have hnames := congrArg (List.map Prod.fst) hread
  rw [List.map_map, List.map_map] at hnames
  have hA : decodeName (Record.of "A.class" []).flags (Record.of "A.class" []).name = "A.class" :=
    decodeName_encode "A.class"
  refine hnames.trans ?_
  simp only [faultyRecords, List.map_cons, List.map_nil, Function.comp_apply, hA,
    decodeName_faultyEntry]

lemma selectClasses_faulty (hn : 12 ≤ n) (hn' : n < 60000) :
    Program.selectClasses (faultyJar n) "app.jar" .all = .ok ["A", faultyName n] := by
  obtain ⟨ms, hopen, hnames⟩ := openJar_faulty hn hn'
  have hA : className? "A.class" = some "A" := by decide
  have hlist : list (faultyJar n) "app.jar" = .ok ["A", faultyName n] := by
    rw [list_of_opened hopen, ← sorted_faulty n]
    have hclasses : (ms.map Member.name).filterMap className? = ["A", faultyName n] := by
      rw [hnames, List.filterMap_cons_some hA, List.filterMap_cons_some (className?_faulty n),
        List.filterMap_nil]
    rw [List.filterMap_map] at hclasses
    rw [← hclasses]
    rfl
  rw [Program.selectClasses, hlist]
  exact congrArg Except.ok (sorted_faulty n)

def faultBytes : Bytes :=
  [0xEF, 0xBF, 0xBD]

lemma encode_faulty (n : Nat) : Text.encode (faultyName n ++ ".java") =
    Text.encode "a/.." ++ ((List.replicate n faultBytes).flatten ++ ([0x78, 0x78] ++ javaEnding)) := by
  have hfault : String.utf8EncodeChar '\ufffd' = faultBytes := by decide
  have hstart : ['a', '/', '.', '.'].flatMap String.utf8EncodeChar = Text.encode "a/.." := by
    decide
  have hend : ['x', 'x'].flatMap String.utf8EncodeChar = [0x78, 0x78] := by decide
  have hjava : Text.encode ".java" = javaEnding := by decide
  have hfaulty : faulty n = ['a', '/', '.', '.'] ++ (List.replicate n '\ufffd' ++ ['x', 'x']) := rfl
  rw [Text.encode_append, hjava, Text.encode, faultyName, String.toList_ofList, hfaulty,
    List.flatMap_append, List.flatMap_append, List.flatMap_replicate, hfault, hstart, hend]
  simp only [List.append_assoc]

lemma encode_faulty_length (n : Nat) :
    (Text.encode (faultyName n ++ ".java")).length = 3 * n + 11 := by
  have hstart : (Text.encode "a/..").length = 4 := by decide
  rw [encode_faulty]
  simp [faultBytes, javaEnding, hstart]
  omega

lemma entryAt_faulty (h : 3 * n + 11 = 65540) (data : Bytes) (start : Nat) :
    ((Record.of (faultyName n ++ ".java") data).entryAt start).name = "a/.." := by
  have hflags : nameFlags (faultyName n ++ ".java") = 0x800 := by
    have hmem : '\ufffd' ∈ (faultyName n ++ ".java").toList := by
      rw [String.toList_append, faultyName, String.toList_ofList]
      have hn : n ≠ 0 := by omega
      simp [faulty, hn]
    rw [nameFlags, if_neg]
    rw [List.all_eq_true]
    exact fun hall => absurd (hall _ hmem) (by decide)
  have hshown : (Record.of (faultyName n ++ ".java") data).shown = Text.encode "a/.." := by
    have hstart : (Text.encode "a/..").length = 65540 % 256 ^ 2 := by decide
    rw [Record.shown, Record.of, encode_faulty_length, h, encode_faulty, List.take_left' hstart]
  have hentry : ((Record.of (faultyName n ++ ".java") data).entryAt start).name =
      decodeName (nameFlags (faultyName n ++ ".java")) (Text.encode "a/..") := by
    rw [← hshown]
    rfl
  rw [hentry, hflags]
  exact Text.decodeLossy_encode "a/.."

lemma not_misled_faulty (h : 5 ≤ n) (first second : Bytes) :
    ¬ Misled ([Record.of "A.java" first] ++ [Record.of (faultyName n ++ ".java") second]) := by
  obtain ⟨m, rfl⟩ := Nat.exists_eq_add_of_le' h
  let tail := (List.replicate 4 faultBytes).flatten ++ ([0x78, 0x78] ++ javaEnding)
  have hname : Text.encode (faultyName (m + 5) ++ ".java") =
      (Text.encode "a/.." ++ ((List.replicate m faultBytes).flatten ++ [0xEF, 0xBF])) ++
        (0xBD :: tail) := by
    rw [encode_faulty, List.replicate_add, List.flatten_append]
    simp only [List.append_assoc]
    rfl
  have hmark : readNumber? 4 (0xBD :: tail) = some (0xBDBFEFBD, tail.drop 3) := by decide
  have hlength : (0xBD :: tail).length = locatorSize := by rfl
  have hne : 0xBDBFEFBD ≠ zip64LocatorMark := by decide
  exact not_misled_concat (r := .of (faultyName (m + 5) ++ ".java") second) [.of "A.java" first] hname
    hlength hmark hne

lemma entries_write_faulty {first second : Bytes} (hfirst : (deflateStored first).length < 2 ^ 31)
    (hsecond : (deflateStored second).length < 2 ^ 31) (h : 3 * n + 11 = 65540) : ∃ listed,
      Archive.entries (write [("A.java", first), (faultyName n ++ ".java", second)]) = .ok listed ∧
        listed.map Entry.name = ["A.java", "a/.."] := by
  have hA : (Text.encode "A.java").length = 6 := by decide
  have hmark : 2 ^ 31 < zip64Mark := by decide
  have hfirstFits : (Record.of "A.java" first).Fits := Record.fits_of (Nat.lt_trans hfirst hmark) _
  have hfirstLength : (Text.encode "A.java").length < 256 ^ 2 := by
    rw [hA]
    decide
  have hrs : ∀ r ∈ [Record.of "A.java" first], r.Fits ∧ r.name.length < 256 ^ 2 := by
    rw [List.forall_mem_singleton]
    exact ⟨hfirstFits, hfirstLength⟩
  have hparts : (parts [Record.of "A.java" first]).length ≤ zip64Mark := by
    have hentries := writeEntries_length_le 0 [Record.of "A.java" first]
    simp only [List.map_cons, List.map_nil, List.sum_cons, List.sum_nil, Record.of, hA] at hentries
    rw [parts]
    have hvalue : zip64Mark = 0xFFFFFFFF := rfl
    simp only [Record.of]
    omega
  have hsize : (writeRecords ([Record.of "A.java" first] ++
      [Record.of (faultyName n ++ ".java") second])).length < UInt64.size := by
    refine Nat.lt_of_le_of_lt (writeRecords_length_le _) ?_
    simp only [List.cons_append, List.nil_append, List.map_cons, List.map_nil, List.sum_cons,
      List.sum_nil, Record.of, hA, encode_faulty_length, UInt64.size]
    omega
  have hrecords : records [("A.java", first), (faultyName n ++ ".java", second)] =
      [Record.of "A.java" first] ++ [Record.of (faultyName n ++ ".java") second] := rfl
  rw [write, hrecords]
  refine ⟨_, entries_write_concat hrs (Record.fits_of (Nat.lt_trans hsecond hmark) _)
    (decide_eq_false (Nat.not_lt.mpr hparts)) hsize (not_misled_faulty (by omega) first second), ?_⟩
  have hshown : decodeName (Record.of "A.java" first).flags (Record.of "A.java" first).shown =
      "A.java" := by
    rw [Record.shown_of_lt (hrs _ List.mem_cons_self).2]
    exact decodeName_encode "A.java"
  rw [List.map_append, entriesFrom_names, List.map_singleton, List.map_singleton, hshown,
    entryAt_faulty h]
  rfl

end ClassBatch.Archive
