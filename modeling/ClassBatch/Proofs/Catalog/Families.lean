import ClassBatch.Archive.Writer
import ClassBatch.Proofs.Catalog
import ClassBatch.Tool.Fernflower

/-! The families of a jar. Each holds the file of a class and those of the classes nested in it, and
two of them share a file only if one class is nested in the other. -/

namespace ClassBatch.Catalog

open Files Text

variable {d : Disk} {path name inner entry : String} {opened : List Member} {m : Member}
  {data : Member → Bytes} {rest : List Char}

/-- The file of a class, or of a class nested in it. -/
def IsFileOf (name entry : String) : Prop :=
  entry.toList = name.toList ++ ".class".toList ∨
    ∃ rest, entry.toList = name.toList ++ '$' :: rest ∧ ".class".toList <:+ rest ∧
      '/' ∉ rest ∧ '\x5c' ∉ rest

lemma IsFileOf.isInitial (h : IsFileOf name entry) : name.toList <+: entry.toList := by
  rcases h with hentry | ⟨rest, hentry, -⟩
  · exact ⟨_, hentry.symm⟩
  · exact ⟨_, hentry.symm⟩

def Belongs (name entry : String) : Prop :=
  ('\x00' ∉ entry.toList ∧ ∀ segment ∈ splitAll isSlash entry.toList,
    segment ≠ [] ∧ segment ≠ ['.'] ∧ segment ≠ ['.', '.']) ∧ IsFileOf name entry

lemma forall_isSlash_eq_false_iff :
    (∀ c ∈ rest, isSlash c = false) ↔ '/' ∉ rest ∧ '\x5c' ∉ rest := by
  simp only [isSlash, Bool.or_eq_false_iff, decide_eq_false_iff_not, forall_and,
    ← List.forall_mem_ne]
  grind

lemma inFamily_iff_belongs : inFamily name entry = true ↔ Belongs name entry := by
  simp only [inFamily_iff, isContained_iff, forall_isSlash_eq_false_iff]
  rfl

instance (name entry : String) : Decidable (Belongs name entry) :=
  decidable_of_iff (inFamily name entry = true) inFamily_iff_belongs

def familyOf (data : Member → Bytes) (opened : List Member) (name : String) :
    List (String × Bytes) :=
  (opened.filter fun m => Belongs name m.name).map fun m => (m.name, data m)

def entryNames (members : List (String × Bytes)) : List String :=
  members.map Prod.fst

lemma mem_entryNames : entry ∈ entryNames (familyOf data opened name) ↔
    Belongs name entry ∧ ∃ m ∈ opened, m.name = entry := by
  simp only [entryNames, familyOf, List.map_map, List.mem_map, List.mem_filter, Function.comp_apply,
    decide_eq_true_eq]
  constructor
  · rintro ⟨m, ⟨hm, hbelongs⟩, rfl⟩
    exact ⟨hbelongs, m, hm, rfl⟩
  · rintro ⟨hbelongs, m, hm, rfl⟩
    exact ⟨m, ⟨hm, hbelongs⟩, rfl⟩

lemma familyOf_cons (data : Member → Bytes) (m : Member) (opened : List Member) (name : String) :
    familyOf data (m :: opened) name =
      if Belongs name m.name then (m.name, data m) :: familyOf data opened name
      else familyOf data opened name := by
  by_cases hm : Belongs name m.name <;> simp [familyOf, hm]

def oversized? (opened : List Member) (name : String) : Option Member :=
  opened.find? fun m => Belongs name m.name ∧ 2 ^ 63 ≤ m.entry.size

lemma oversized?_cons (m : Member) (opened : List Member) (name : String) :
    oversized? (m :: opened) name =
      if Belongs name m.name ∧ 2 ^ 63 ≤ m.entry.size then some m else oversized? opened name := by
  rw [oversized?, oversized?, List.find?_cons]
  by_cases h : Belongs name m.name ∧ 2 ^ 63 ≤ m.entry.size
  · rw [if_pos h, decide_eq_true h]
  · rw [if_neg h, decide_eq_false h]

lemma read_eq {data : Bytes} (h : m.entry.unpacked m.packed = .ok data) :
    m.read = if 2 ^ 63 ≤ m.entry.size then .error .overflow else .ok data := by
  have hcapacity : maxCapacity < m.entry.size ↔ 2 ^ 63 ≤ m.entry.size := by
    rw [maxCapacity]
    omega
  rw [Member.read, h]
  simp only [hcapacity]
  rfl

lemma family_eq_familyOf (hunpack : ∀ m ∈ opened, m.entry.unpacked m.packed = .ok (data m)) :
    family path name (opened.map Except.ok) =
      match oversized? opened name with
      | some m => .error (.unreadable m.name path .overflow)
      | none => .ok (familyOf data opened name) := by
  induction opened with
  | nil => rfl
  | cons m opened ih =>
    rw [List.forall_mem_cons] at hunpack
    rw [List.map_cons, family, ih hunpack.2, read_eq hunpack.1, familyOf_cons, oversized?_cons]
    by_cases hm : Belongs name m.name
    · rw [if_pos (inFamily_iff_belongs.mpr hm), if_pos hm]
      by_cases hsize : 2 ^ 63 ≤ m.entry.size
      · rw [if_pos hsize, if_pos ⟨hm, hsize⟩]
      · rw [if_neg hsize, if_neg fun h => hsize h.2]
        cases oversized? opened name <;> rfl
    · rw [if_neg (mt inFamily_iff_belongs.mp hm), if_neg hm, if_neg fun h => hm h.1]

/-- A class is nested in another, at whatever depth. -/
def IsNested (name inner : String) : Prop :=
  ∃ rest, inner.toList = name.toList ++ '$' :: rest ∧ '/' ∉ rest ∧ '\x5c' ∉ rest

lemma Belongs.of_isNested (hnested : IsNested name inner) (h : Belongs inner entry) :
    Belongs name entry := by
  obtain ⟨rest, hinner, hrest⟩ := hnested
  refine ⟨h.1, Or.inr ?_⟩
  rcases h.2 with hentry | ⟨more, hentry, hending, hmore⟩
  · refine ⟨rest ++ ".class".toList, ?_, List.suffix_append _ _, ?_⟩
    · rw [hentry, hinner, List.append_assoc, List.cons_append]
    · simpa only [List.mem_append, not_or] using
        ⟨⟨hrest.1, by decide⟩, hrest.2, by decide⟩
  · refine ⟨rest ++ '$' :: more, ?_, ?_, ?_⟩
    · rw [hentry, hinner, List.append_assoc, List.cons_append]
    · exact hending.trans ((List.suffix_cons _ _).trans (List.suffix_append _ _))
    · simpa only [List.mem_append, List.mem_cons, not_or] using
        ⟨⟨hrest.1, by decide, hmore.1⟩, hrest.2, by decide, hmore.2⟩

lemma Belongs.isNested (h : Belongs name entry) (h' : Belongs inner entry)
    (hlength : name.toList.length < inner.toList.length) : IsNested name inner := by
  obtain ⟨stop, hstop⟩ : inner.toList <+: entry.toList := h'.2.isInitial
  obtain ⟨more, hmore⟩ :=
    List.prefix_of_prefix_length_le h.2.isInitial ⟨stop, hstop⟩ hlength.le
  have hpos : 0 < more.length := by
    rw [← hmore, List.length_append] at hlength
    omega
  have htail (tail : List Char) (hentry : entry.toList = name.toList ++ tail) :
      more ++ stop = tail := by
    rw [← hmore, List.append_assoc] at hstop
    exact List.append_cancel_left (hstop.trans hentry)
  rcases h.2 with hentry | ⟨rest, hentry, -, hrest⟩
  · -- the ending alone is left behind the shorter name, and it has no room for another one
    have hending := htail _ hentry
    rcases h'.2 with hentry' | ⟨rest', hentry', -⟩
    · rw [List.append_cancel_left (hstop.trans hentry')] at hending
      rw [List.append_left_eq_self.mp hending, List.length_nil] at hpos
      exact absurd hpos (lt_irrefl 0)
    · rw [List.append_cancel_left (hstop.trans hentry')] at hending
      have hdollar : '$' ∈ ".class".toList := by
        rw [← hending]
        exact List.mem_append_right _ List.mem_cons_self
      exact absurd hdollar (by decide)
  · have hnested := htail _ hentry
    obtain ⟨c, more, rfl⟩ := List.exists_cons_of_length_pos hpos
    rw [List.cons_append, List.cons.injEq] at hnested
    obtain ⟨rfl, rfl⟩ := hnested
    simp only [List.mem_append, not_or] at hrest
    exact ⟨more, hmore.symm, hrest.1.1, hrest.2.1⟩

lemma familyOf_sublist (h : ∀ entry, Belongs inner entry → Belongs name entry) :
    (familyOf data opened inner).Sublist (familyOf data opened name) := by
  apply List.Sublist.map
  apply List.monotone_filter_right
  intro m hm
  exact decide_eq_true (h m.name (of_decide_eq_true hm))

lemma familyOf_cases (data : Member → Bytes) (opened : List Member)
    (hlength : name.toList.length < inner.toList.length) :
    (entryNames (familyOf data opened name)).Disjoint (entryNames (familyOf data opened inner)) ∨
      IsNested name inner ∧
        (familyOf data opened inner).Sublist (familyOf data opened name) := by
  refine or_iff_not_imp_left.mpr fun hmeet => ?_
  simp only [List.disjoint_left, not_forall, not_not, exists_prop] at hmeet
  obtain ⟨entry, hname, hinner⟩ := hmeet
  have hnested := (mem_entryNames.mp hname).1.isNested (mem_entryNames.mp hinner).1 hlength
  exact ⟨hnested, familyOf_sublist fun entry => Belongs.of_isNested hnested⟩

lemma Belongs.eq_of_length_eq (h : Belongs name entry) (h' : Belongs inner entry)
    (hlength : name.toList.length = inner.toList.length) : name = inner := by
  have hinitial := List.prefix_of_prefix_length_le h.2.isInitial h'.2.isInitial hlength.le
  exact String.toList_inj.mp (hinitial.eq_of_length hlength)

/-- Where every entry can be unpacked, a family is what belongs to the class, in the archive's order,
or the program gives up at the first member of it that tells of 2 ^ 63 bytes or more. Two families are
apart or one is a part of the other, and if they are not apart then the longer name is that of a class
nested in the other. -/
theorem families_laminar (hjar : openJar d path = .ok (opened.map Except.ok))
    (hunpack : ∀ m ∈ opened, m.entry.unpacked m.packed = .ok (data m)) :
    (∀ name, readFamily d path name =
      match opened.find? fun m => Belongs name m.name ∧ 2 ^ 63 ≤ m.entry.size with
      | some m => .error (.unreadable m.name path .overflow)
      | none => .ok ((opened.filter fun m => Belongs name m.name).map fun m => (m.name, data m))) ∧
    ∀ name inner members others,
      readFamily d path name = .ok members → readFamily d path inner = .ok others →
        ((entryNames members).Disjoint (entryNames others) ∨ members.Sublist others ∨
          others.Sublist members) ∧
        (name.toList.length < inner.toList.length →
          ¬ (entryNames members).Disjoint (entryNames others) →
            IsNested name inner ∧ others.Sublist members) := by
  have hfamily (name : String) : readFamily d path name =
      match oversized? opened name with
      | some m => .error (.unreadable m.name path .overflow)
      | none => .ok (familyOf data opened name) :=
    (readFamily_eq_family hjar).trans (family_eq_familyOf hunpack)
  have hmembers {name : String} {members : List (String × Bytes)}
      (h : readFamily d path name = .ok members) : members = familyOf data opened name := by
    rw [hfamily] at h
    split at h
    · cases h
    · exact (Except.ok.inj h).symm
  refine ⟨hfamily, fun name inner members others hname hinner => ?_⟩
  obtain rfl := hmembers hname
  obtain rfl := hmembers hinner
  refine ⟨?_, fun hlength => (familyOf_cases data opened hlength).resolve_left⟩
  rcases lt_trichotomy name.toList.length inner.toList.length with hlength | hlength | hlength
  · exact (familyOf_cases data opened hlength).imp_right fun h => Or.inr h.2
  · by_cases hname : name = inner
    · subst hname
      exact Or.inr (Or.inl (List.Sublist.refl _))
    · refine Or.inl fun entry hentry hentry' => hname ?_
      exact (mem_entryNames.mp hentry).1.eq_of_length_eq (mem_entryNames.mp hentry').1 hlength
  · rcases familyOf_cases data opened hlength with hapart | ⟨-, hsublist⟩
    · exact Or.inl (List.disjoint_comm.mp hapart)
    · exact Or.inr (Or.inl hsublist)

def unpackedData (m : Member) : Bytes :=
  (m.entry.unpacked m.packed).toOption.getD []

lemma exists_opened (d : Disk) (path : String) (h : (openJar d path).map (fun ms => ms.all fun m =>
      m.toOption.any fun m => (m.entry.unpacked m.packed).isOk) = .ok true) :
    ∃ opened : List Member, openJar d path = .ok (opened.map Except.ok) ∧
      ∀ m ∈ opened, m.entry.unpacked m.packed = .ok (unpackedData m) := by
  cases hjar : openJar d path with
  | error e => rw [hjar] at h; cases h
  | ok ms =>
    rw [hjar] at h
    have hall := List.all_eq_true.mp (Except.ok.inj h)
    refine ⟨ms.filterMap Except.toOption, congrArg Except.ok ?_, fun m hm => ?_⟩
    · have hok : ∀ m ∈ ms, Except.ok <$> m.toOption = some m := by
        intro m hm
        have hopened := hall m hm
        cases m with
        | error e => cases hopened
        | ok m => rfl
      rw [List.map_filterMap]
      exact (List.filterMap_congr hok).trans List.filterMap_some |>.symm
    · obtain ⟨m', hm', hsome⟩ := List.mem_filterMap.mp hm
      have hunpack := hall m' hm'
      rw [hsome, Option.any_some] at hunpack
      rw [unpackedData]
      cases hdata : m.entry.unpacked m.packed with
      | error e => rw [hdata] at hunpack; cases hunpack
      | ok data => rfl

def deep : Disk where
  tree := ⟨.dir [("app.jar", .file (Archive.write
    [("a/A$B.class", [1]), ("a/A.class", [2]), ("a/A$B$C.class", [3]), ("a/A$.class", [4]),
      ("a/A$B.class", [5]), ("a/AB.class", [6])]) false)]⟩

def outerFamily : List (String × Bytes) :=
  [("a/A$B.class", [1]), ("a/A.class", [2]), ("a/A$B$C.class", [3]), ("a/A$.class", [4]),
    ("a/A$B.class", [5])]

def innerFamily : List (String × Bytes) :=
  [("a/A$B.class", [1]), ("a/A$B$C.class", [3]), ("a/A$B.class", [5])]

theorem families_laminar_of_deep : ∃ opened : List Member,
    openJar deep "app.jar" = .ok (opened.map Except.ok) ∧
    (∀ m ∈ opened, m.entry.unpacked m.packed = .ok (unpackedData m)) ∧
    outerFamily = ((opened.filter fun m => Belongs "a/A" m.name).map
      fun m => (m.name, unpackedData m)) ∧
    readFamily deep "app.jar" "a/A" = .ok outerFamily ∧
    readFamily deep "app.jar" "a/A$B" = .ok innerFamily ∧
    ¬ (entryNames outerFamily).Disjoint (entryNames innerFamily) ∧
    IsNested "a/A" "a/A$B" ∧ innerFamily.Sublist outerFamily := by
  obtain ⟨opened, hjar, hunpack⟩ := exists_opened deep "app.jar" (by decide +kernel)
  obtain ⟨hexact, hlaminar⟩ := families_laminar hjar hunpack
  have houter : readFamily deep "app.jar" "a/A" = .ok outerFamily := by decide +kernel
  have hinner : readFamily deep "app.jar" "a/A$B" = .ok innerFamily := by decide +kernel
  obtain ⟨-, hnested⟩ := hlaminar "a/A" "a/A$B" _ _ houter hinner
  have hmeet : ¬ (entryNames outerFamily).Disjoint (entryNames innerFamily) :=
    fun hapart => hapart (a := "a/A$B.class") (by decide) (by decide)
  obtain ⟨hinside, hsublist⟩ := hnested (by decide) hmeet
  refine ⟨opened, hjar, hunpack, ?_, houter, hinner, hmeet, hinside, hsublist⟩
  have hfamily := houter.symm.trans (hexact "a/A")
  split at hfamily
  · cases hfamily
  · exact Except.ok.inj hfamily

def boastful : Disk where
  tree := ⟨.dir [("app.jar", .file (part ++ directory ++
    Archive.directoryEnd 1 directory.length part.length) false), ("scratch", .dir [])]⟩
where
  data : Bytes := [0xCA, 0xFE, 0xBA, 0xBE]
  part : Bytes := Archive.localEntry 0 (.of "a/A.class" data)
  directory : Bytes :=
    Archive.writeFields [(4, Archive.directoryMark), (2, 0x032E), (2, 45), (2, 0), (2, 8), (2, 0),
      (2, 0x21), (4, (Archive.checksum data).toNat), (4, (Archive.deflateStored data).length),
      (4, Archive.zip64Mark), (2, 9), (2, 12), (2, 0), (2, 0), (2, 0), (4, 0), (4, 0)] ++
    encode "a/A.class" ++ Archive.writeFields [(2, 1), (2, 8), (8, 2 ^ 63)]

/-- The class is listed, opens and unpacks, but it is not given out; the program panics over it. -/
theorem family_of_boastful_overflows :
    list boastful "app.jar" = .ok ["a/A"] ∧
    (∃ opened : List Member, openJar boastful "app.jar" = .ok (opened.map Except.ok) ∧
      ∀ m ∈ opened, m.entry.unpacked m.packed = .ok (unpackedData m)) ∧
    readFamily boastful "app.jar" "a/A" =
      .error (.unreadable "a/A.class" "app.jar" .overflow) ∧
    (Tool.Fernflower.prepare ⟨"java", "fernflower.jar", "app.jar", "scratch"⟩ "a/A" boastful).1 =
      .error (.panicked "capacity overflow") := by
  refine ⟨by decide +kernel, exists_opened _ _ (by decide +kernel), ?_, ?_⟩ <;> decide +kernel

end ClassBatch.Catalog
