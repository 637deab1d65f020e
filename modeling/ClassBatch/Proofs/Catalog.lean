import ClassBatch.Proofs.Files.Paths
import ClassBatch.Proofs.Names
import ClassBatch.Catalog

/-! What a jar lists as classes, and what it gives out as the family of one. -/

namespace ClassBatch.Catalog

open Files Text

def forward (c : Char) : Char :=
  if c = '\x5c' then '/' else c

variable {d : Disk} {path name entry : String} {names : List String} {s : List Char}
  {opened : List Member} {m : Member} {members : List (String × Bytes)}

lemma isSlash_of_eq {c : Char} (h : decide (c = '/') = true) : isSlash c = true := by
  obtain rfl := of_decide_eq_true h
  rfl

lemma isPlain_of_mem_splitAll (h : ∀ segment ∈ splitAll isSlash s, isPlain segment = true) :
    ∀ segment ∈ splitAll (· = '/') s, isPlain segment = true := by
  intro segment hs
  rw [splitAll_eq_flatMap (fun c => isSlash_of_eq)] at h
  have hself : segment.any isSlash = false → isPlain segment = true := by
    intro hany
    have hc : ∀ c ∈ segment, isSlash c = false := by simpa using hany
    exact h segment (List.mem_flatMap.mpr ⟨segment, hs, by simp [splitAll_of_forall_not_sep hc]⟩)
  rw [Path.isPlain_iff]
  refine ⟨?_, ?_, ?_⟩ <;> rintro rfl <;> exact absurd (hself (by decide)) (by decide)

lemma enclosed_map_normal (depth : Nat) (segments : List (List Char)) :
    enclosed depth (segments.map Component.normal) = true := by
  induction segments generalizing depth with
  | nil => rfl
  | cons segment segments ih => exact ih (depth + 1)

lemma isContained_iff : isContained name = true ↔
    '\x00' ∉ name.toList ∧ ∀ segment ∈ splitAll isSlash name.toList,
      segment ≠ [] ∧ segment ≠ ['.'] ∧ segment ≠ ['.', '.'] := by
  simp only [← Path.isPlain_iff, isContained, Bool.and_eq_true, List.all_eq_true, Bool.not_eq_true',
    List.contains_eq_mem, decide_eq_false_iff_not]
  constructor
  · rintro ⟨⟨⟨hnul, -⟩, -⟩, hplain⟩
    exact ⟨hnul, hplain⟩
  · rintro ⟨hnul, hplain⟩
    have hcomponents := Path.components_of_isPlain (isPlain_of_mem_splitAll hplain)
    rw [hcomponents]
    refine ⟨⟨⟨hnul, enclosed_map_normal 0 _⟩, ?_⟩, hplain⟩
    intro component hc
    obtain ⟨segment, -, rfl⟩ := List.mem_map.mp hc
    rfl

lemma plain_of_isContained (h : isContained name = true) : Path.Plain name :=
  isPlain_of_mem_splitAll fun segment hs => Path.isPlain_iff.mpr ((isContained_iff.mp h).2 segment hs)

lemma className?_eq_some : className? entry = some name ↔ isContained entry = true ∧
    ∃ stem, entry.toList = stem ++ ending ∧ name.toList = stem.map forward := by
  rw [className?]
  split
  · rename_i h
    simp only [Option.map_eq_some_iff, beforeEnding?_eq_some, h, true_and]
    refine exists_congr fun stem => and_congr_right fun _ => ?_
    rw [← String.toList_inj, String.toList_ofList]
    exact eq_comm
  · rename_i h
    simp [h]

lemma inFamily_iff : inFamily name entry = true ↔ isContained entry = true ∧
    (entry.toList = name.toList ++ ending ∨ ∃ rest, entry.toList = name.toList ++ '$' :: rest ∧
      ending <:+ rest ∧ ∀ c ∈ rest, isSlash c = false) := by
  simp only [inFamily, Bool.and_eq_true, Bool.or_eq_true, beq_iff_eq, Option.any_eq_true,
    afterStart?_eq_some_iff, List.append_assoc, List.singleton_append, List.isSuffixOf_iff_suffix,
    Bool.not_eq_true', List.any_eq_false, Bool.not_eq_true]

lemma names_of_inFamily (h : inFamily name entry = true) :
    ∃ simple, Path.names entry = (Path.names name).dropLast ++ [simple] := by
  obtain ⟨suffix, hentry, hsuffix⟩ : ∃ suffix, entry.toList = name.toList ++ suffix ∧
      ∀ c ∈ suffix, decide (c = '/') = false := by
    rcases (inFamily_iff.mp h).2 with he | ⟨rest, he, -, hrest⟩
    · have hending : '/' ∉ ending := by decide
      exact ⟨ending, he, fun c hc => decide_eq_false (ne_of_mem_of_not_mem hc hending)⟩
    · refine ⟨'$' :: rest, he, List.forall_mem_cons.mpr ⟨by decide, fun c hc => ?_⟩⟩
      rw [decide_eq_false_iff_not]
      rintro rfl
      cases hrest '/' hc
  obtain ⟨parts, part, hname, hsplit⟩ := splitAll_append_of_forall_not_sep hsuffix name.toList
  refine ⟨String.ofList (part ++ suffix), ?_⟩
  rw [Path.names, Path.names, hentry, hsplit, hname, List.map_append, List.map_append,
    List.map_singleton, List.map_singleton, List.dropLast_concat]

lemma map_forward_eq_self_iff : s.map forward = s ↔ '\x5c' ∉ s := by
  induction s with
  | nil => simp
  | cons c s ih =>
    rw [List.map_cons, List.cons.injEq, ih, List.mem_cons, not_or]
    refine and_congr_left fun _ => ?_
    by_cases hc : c = '\x5c'
    · subst hc; decide
    · simp [forward, hc, eq_comm]

lemma inFamily_of_className? (h : className? entry = some name) :
    inFamily name entry = true ↔ '\x5c' ∉ entry.toList := by
  obtain ⟨hcontained, stem, hentry, hname⟩ := className?_eq_some.mp h
  have hending : '\x5c' ∉ ending := by decide
  have hlength : name.toList.length = stem.length := by rw [hname, List.length_map]
  rw [inFamily_iff, hentry, List.mem_append, not_or, ← map_forward_eq_self_iff, ← hname]
  constructor
  · rintro ⟨-, heq | ⟨rest, heq, -, -⟩⟩
    · exact ⟨(List.append_inj heq hlength.symm).1.symm, hending⟩
    · have hrest := (List.append_inj heq hlength.symm).2
      have hhead : some '.' = some '$' := congrArg List.head? hrest
      exact absurd hhead (by decide)
  · rintro ⟨heq, -⟩
    exact ⟨hcontained, Or.inl (by rw [heq])⟩

def Holds (name : String) (opened : List Member) (members : List (String × Bytes)) : Prop :=
  (opened.filter fun m => inFamily name m.name).map (fun m => (m.name, m.read)) =
    members.map fun member => (member.1, Except.ok member.2)

lemma family_cases (path name : String) (opened : List Member) :
    (∃ m ∈ opened, inFamily name m.name = true ∧ ∃ cause, m.read = .error cause ∧
      family path name (opened.map Except.ok) = .error (.unreadable m.name path cause)) ∨
    ∃ members, family path name (opened.map Except.ok) = .ok members ∧
      Holds name opened members := by
  induction opened with
  | nil => exact Or.inr ⟨[], rfl, rfl⟩
  | cons m opened ih =>
    rw [List.map_cons, family]
    cases hm : inFamily name m.name with
    | false =>
      rw [if_neg Bool.false_ne_true]
      rcases ih with ⟨m', hm', h⟩ | ⟨members, hfamily, hholds⟩
      · exact Or.inl ⟨m', List.mem_cons_of_mem m hm', h⟩
      · refine Or.inr ⟨members, hfamily, ?_⟩
        rw [Holds, List.filter_cons_of_neg (by simp [hm])]
        exact hholds
    | true =>
      rw [if_pos rfl]
      cases hread : m.read with
      | error cause => exact Or.inl ⟨m, List.mem_cons_self, hm, cause, hread, rfl⟩
      | ok data =>
        rcases ih with ⟨m', hm', hfamily', cause, hread', hfamily⟩ | ⟨members, hfamily, hholds⟩
        · refine Or.inl ⟨m', List.mem_cons_of_mem m hm', hfamily', cause, hread', ?_⟩
          simp only [hfamily, Except.map]
        · refine Or.inr ⟨(m.name, data) :: members, ?_, ?_⟩
          · simp only [hfamily, Except.map]
          · rw [Holds, List.filter_cons_of_pos (by simp [hm]), List.map_cons, hholds, hread]
            rfl

lemma family_ok (h : family path name (opened.map Except.ok) = .ok members) :
    Holds name opened members := by
  rcases family_cases path name opened with ⟨m, -, -, cause, -, he⟩ | ⟨members', he, hholds⟩
  · rw [h] at he
    cases he
  · rw [h] at he
    cases he
    exact hholds

lemma Holds.exists_entry (h : Holds name opened members) {member : String × Bytes}
    (hm : member ∈ members) :
    ∃ m ∈ opened, inFamily name m.name = true ∧ m.name = member.1 ∧ m.read = .ok member.2 := by
  have hmem := List.mem_map_of_mem (f := fun member : String × Bytes =>
    (member.1, (Except.ok member.2 : Except MemberError Bytes))) hm
  rw [← h, List.mem_map] at hmem
  obtain ⟨m, hfilter, he⟩ := hmem
  obtain ⟨hopened, hfamily⟩ := List.mem_filter.mp hfilter
  obtain ⟨hname, hread⟩ := Prod.mk.inj he
  exact ⟨m, hopened, hfamily, hname, hread⟩

lemma Holds.exists_data (h : Holds name opened members) (hm : m ∈ opened)
    (hfamily : inFamily name m.name = true) : ∃ data, m.read = .ok data ∧ (m.name, data) ∈ members := by
  have hmem : (m.name, m.read) ∈ members.map fun member => (member.1, Except.ok member.2) := by
    rw [← h]
    exact List.mem_map_of_mem (f := fun m : Member => (m.name, m.read))
      (List.mem_filter.mpr ⟨hm, hfamily⟩)
  obtain ⟨⟨entry, data⟩, hmember, he⟩ := List.mem_map.mp hmem
  obtain ⟨rfl, hread⟩ := Prod.mk.inj he
  exact ⟨data, hread.symm, hmember⟩

lemma Holds.find?_eq_some_iff (h : Holds name opened members) (p : String → Bool) {data : Bytes} :
    (members.find? fun member => p member.1).map Prod.snd = some data ↔
      ∃ m, opened.find? (fun m => inFamily name m.name && p m.name) = some m ∧ m.read = .ok data := by
  have hfind := congrArg (List.find? fun entry => p entry.1) h
  rw [List.find?_map, List.find?_map, List.find?_filter] at hfind
  simp only [Function.comp_def, Bool.decide_and, Bool.decide_eq_true] at hfind
  cases hm : opened.find? fun m => inFamily name m.name && p m.name with
  | none =>
    rw [hm, Option.map_none, eq_comm, Option.map_eq_none_iff] at hfind
    simp [hfind]
  | some m =>
    rw [hm, Option.map_some, eq_comm, Option.map_eq_some_iff] at hfind
    obtain ⟨member, hmember, hentry⟩ := hfind
    simp [hmember, ← (Prod.mk.inj hentry).2]

lemma Holds.reverse (h : Holds name opened members) : Holds name opened.reverse members.reverse := by
  rw [Holds, List.filter_reverse, List.map_reverse, h, List.map_reverse]

lemma exists_opened_of_family {ms : Members} (h : family path name ms = .ok members) :
    ∃ opened : List Member, ms = opened.map Except.ok := by
  induction ms generalizing members with
  | nil => exact ⟨[], rfl⟩
  | cons m ms ih =>
    cases m with
    | error e => cases h
    | ok m =>
      have htail : ∃ members', family path name ms = .ok members' := by
        rw [family] at h
        split at h
        · split at h
          · cases hms : family path name ms with
            | error e => rw [hms] at h; cases h
            | ok members' => exact ⟨members', rfl⟩
          · cases h
        · exact ⟨members, h⟩
      obtain ⟨members', hms⟩ := htail
      obtain ⟨opened, rfl⟩ := ih hms
      exact ⟨m :: opened, rfl⟩

lemma openJar_eq_ok_iff {ms : Members} :
    openJar d path = .ok ms ↔
      ∃ archive, d.read path = .ok archive ∧ Catalog.members archive = .ok ms := by
  rw [openJar]
  cases d.read path with
  | error e => cases e <;> simp
  | ok archive =>
    simp only [Except.ok.injEq, exists_eq_left']
    cases Catalog.members archive <;> simp [Except.mapError]

lemma readFamily_eq_family {ms : Members} (h : openJar d path = .ok ms) :
    readFamily d path name = family path name ms := by
  rw [readFamily, h]
  rfl

lemma readFamily_eq_ok (h : readFamily d path name = .ok members) : ∃ opened : List Member,
    openJar d path = .ok (opened.map Except.ok) ∧ Holds name opened members := by
  cases hjar : openJar d path with
  | error e =>
    rw [readFamily, hjar] at h
    cases h
  | ok ms =>
    rw [readFamily_eq_family hjar] at h
    obtain ⟨opened, rfl⟩ := exists_opened_of_family h
    exact ⟨opened, rfl, family_ok h⟩

lemma mapM_id_eq_ok {ms : Members} (h : ms.mapM id = .ok opened) : ms = opened.map Except.ok := by
  induction ms generalizing opened with
  | nil =>
    cases h
    rfl
  | cons m ms ih =>
    rw [List.mapM_cons] at h
    cases m with
    | error e => cases h
    | ok m =>
      cases hms : ms.mapM id with
      | error e => rw [hms] at h; cases h
      | ok rest =>
        rw [hms] at h
        cases h
        rw [ih hms, List.map_cons]

lemma mapM_id_map_ok (opened : List Member) :
    (opened.map Except.ok : Members).mapM id = .ok opened := by
  induction opened with
  | nil => rfl
  | cons m opened ih =>
    rw [List.map_cons, List.mapM_cons, ih]
    rfl

lemma list_of_opened (h : openJar d path = .ok (opened.map .ok)) :
    list d path = .ok (Names.sorted (opened.filterMap fun m => className? m.name)) := by
  rw [list, h]
  simp only [bind, Except.bind, classNames, mapM_id_map_ok]
  rfl

lemma list_eq_ok (h : list d path = .ok names) : ∃ opened : List Member,
    openJar d path = .ok (opened.map Except.ok) ∧
      names = Names.sorted (opened.filterMap fun m => className? m.name) := by
  rw [list] at h
  cases hjar : openJar d path with
  | error e => rw [hjar] at h; cases h
  | ok ms =>
    rw [hjar] at h
    cases hms : ms.mapM id with
    | error e =>
      simp only [bind, Except.bind, classNames, hms, Except.mapError] at h
      cases h
    | ok opened =>
      simp only [bind, Except.bind, classNames, hms, Except.mapError, pure, Except.pure] at h
      cases h
      exact ⟨opened, by rw [mapM_id_eq_ok hms], rfl⟩

end ClassBatch.Catalog
