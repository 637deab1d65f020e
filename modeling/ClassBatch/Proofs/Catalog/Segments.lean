import ClassBatch.Archive.Writer
import ClassBatch.ClassName
import ClassBatch.Proofs.Catalog
import Mathlib.Data.List.TakeWhile

/-! Which names a jar can list. An entry is tested with its ending, and listed without it: nothing is
known of what the ending leaves of the last segment. -/

namespace ClassBatch.Catalog

open Files Text

variable {d : Disk} {path name entry : String} {listed : List String} {s part : List Char}
  {c : Char}

structure IsInternal (name : String) : Prop where
  backslash : '\x5c' ∉ name.toList
  nul : '\x00' ∉ name.toList
  plain : Path.Plain name

lemma IsInternal.ne_empty (h : IsInternal name) : name ≠ "" := by
  rintro rfl
  exact absurd h.plain (by decide)

structure IsListable (name : String) : Prop where
  backslash : '\x5c' ∉ name.toList
  nul : '\x00' ∉ name.toList
  plain : ∀ segment ∈ (splitAll (· = '/') name.toList).dropLast, isPlain segment = true

lemma forward_of_not_isSlash (h : isSlash c = false) : forward c = c := by
  simp only [isSlash, Bool.or_eq_false_iff, decide_eq_false_iff_not] at h
  simp [forward, h.2]

lemma forward_of_isSlash (h : isSlash c = true) : forward c = '/' := by
  simp only [isSlash, Bool.or_eq_true, decide_eq_true_eq] at h
  rcases h with rfl | rfl <;> rfl

lemma splitAll_map_forward (s : List Char) :
    splitAll (· = '/') (s.map forward) = splitAll isSlash s := by
  induction s with
  | nil => rfl
  | cons c s ih =>
    rw [List.map_cons]
    cases hc : isSlash c with
    | true =>
      rw [forward_of_isSlash hc, splitAll_cons_of_sep (by decide), splitAll_cons_of_sep hc, ih]
    | false =>
      obtain ⟨part, parts, hs⟩ := exists_splitAll_eq_cons isSlash s
      rw [hs] at ih
      have hslash : decide (c = '/') = false := by
        simp only [isSlash, Bool.or_eq_false_iff] at hc
        exact hc.1
      rw [forward_of_not_isSlash hc, splitAll_cons_of_not_sep hslash ih,
        splitAll_cons_of_not_sep hc hs]

lemma backslash_not_mem_map_forward (s : List Char) : '\x5c' ∉ s.map forward := by
  rw [← map_forward_eq_self_iff, List.map_map]
  apply List.map_congr_left
  intro c _
  simp only [Function.comp_apply, forward]
  split
  · decide
  · rfl

lemma nul_mem_map_forward : '\x00' ∈ s.map forward ↔ '\x00' ∈ s := by
  rw [List.mem_map]
  constructor
  · rintro ⟨c, hc, hforward⟩
    rw [forward] at hforward
    split at hforward
    · exact absurd hforward (by decide)
    · exact hforward ▸ hc
  · intro h
    exact ⟨'\x00', h, rfl⟩

lemma isPlain_append {ending : List Char} (h : 2 < ending.length) (part : List Char) :
    isPlain (part ++ ending) = true := by
  rw [Path.isPlain_iff]
  refine ⟨?_, ?_, ?_⟩ <;>
  · intro he
    have hlength := congrArg List.length he
    simp only [List.length_append, List.length_cons, List.length_nil] at hlength
    omega

lemma isPlain_splitAll_append {p : Char → Bool} {ending : List Char}
    (hending : ∀ c ∈ ending, p c = false) (hlong : 2 < ending.length) (s : List Char) :
    (∀ segment ∈ splitAll p (s ++ ending), isPlain segment = true) ↔
      ∀ segment ∈ (splitAll p s).dropLast, isPlain segment = true := by
  obtain ⟨parts, part, hs, hending⟩ := splitAll_append_of_forall_not_sep hending s
  rw [hs, hending, List.dropLast_concat, List.forall_mem_append]
  simp [isPlain_append hlong]

lemma isContained_append_ending (stem : List Char) (h : entry.toList = stem ++ ending) :
    isContained entry = true ↔ '\x00' ∉ stem ∧
      ∀ segment ∈ (splitAll isSlash stem).dropLast, isPlain segment = true := by
  have hnul : '\x00' ∉ ending := by decide
  have hall : ending.all (!isSlash ·) = true := by decide
  have hending : ∀ c ∈ ending, isSlash c = false := by simpa using hall
  have hlong : 2 < ending.length := by decide
  rw [isContained_iff, h, List.mem_append, or_iff_left hnul,
    ← isPlain_splitAll_append hending hlong]
  simp only [Path.isPlain_iff]

lemma exists_className?_iff : (∃ entry, className? entry = some name) ↔ IsListable name := by
  constructor
  · rintro ⟨entry, h⟩
    obtain ⟨hcontained, stem, hentry, hname⟩ := className?_eq_some.mp h
    obtain ⟨hnul, hplain⟩ := (isContained_append_ending stem hentry).mp hcontained
    refine ⟨?_, ?_, ?_⟩
    · rw [hname]
      exact backslash_not_mem_map_forward stem
    · rwa [hname, nul_mem_map_forward]
    · rwa [hname, splitAll_map_forward]
  · rintro ⟨hbackslash, hnul, hplain⟩
    have hself := map_forward_eq_self_iff.mpr hbackslash
    have hentry : (name ++ ".class").toList = name.toList ++ ending := String.toList_append
    have hsplit := splitAll_map_forward name.toList
    rw [hself] at hsplit
    rw [hsplit] at hplain
    refine ⟨name ++ ".class", className?_eq_some.mpr ⟨?_, name.toList, hentry, hself.symm⟩⟩
    exact (isContained_append_ending name.toList hentry).mpr ⟨hnul, hplain⟩

lemma isListable_of_mem (h : list d path = .ok listed) (hname : name ∈ listed) :
    IsListable name := by
  obtain ⟨opened, -, rfl⟩ := list_eq_ok h
  obtain ⟨m, -, hm⟩ := List.mem_filterMap.mp (Names.mem_sorted.mp hname)
  exact exists_className?_iff.mp ⟨m.name, hm⟩

lemma simpleChars_of_not_mem (h : '/' ∉ part) : ClassName.simpleChars part = part := by
  have hpart : ∀ c ∈ part.reverse, decide (c ≠ '/') = true := fun c hc =>
    decide_eq_true (ne_of_mem_of_not_mem (List.mem_reverse.mp hc) h)
  rw [ClassName.simpleChars, List.takeWhile_eq_self_iff.mpr hpart, List.reverse_reverse]

lemma simpleChars_append (s : List Char) (h : '/' ∉ part) :
    ClassName.simpleChars (s ++ '/' :: part) = part := by
  have hpart : ∀ c ∈ part.reverse, decide (c ≠ '/') = true := fun c hc =>
    decide_eq_true (ne_of_mem_of_not_mem (List.mem_reverse.mp hc) h)
  rw [ClassName.simpleChars, List.reverse_append, List.reverse_cons, List.append_assoc,
    List.takeWhile_append_of_pos hpart]
  simp

lemma splitAll_eq_concat_simpleChars (s : List Char) : ∃ parts,
    splitAll (· = '/') s = parts ++ [ClassName.simpleChars s] := by
  obtain ⟨parts, part, hs, hcases⟩ := splitAll_eq_concat (· = '/') s
  have hmem : part ∈ splitAll (· = '/') s := hs ▸ List.mem_append_right parts List.mem_cons_self
  have hpart : '/' ∉ part := fun h => Path.ne_slash_of_mem hmem '/' h rfl
  refine ⟨parts, ?_⟩
  rcases hcases with ⟨-, rfl⟩ | ⟨start, c, hc, rfl, -⟩
  · rw [hs, simpleChars_of_not_mem hpart]
  · rw [hs, of_decide_eq_true hc, simpleChars_append start hpart]

lemma IsListable.isInternal_iff (h : IsListable name) :
    IsInternal name ↔ ClassName.simple name ∉ ["", ".", ".."] := by
  obtain ⟨parts, hs⟩ := splitAll_eq_concat_simpleChars name.toList
  have hplain := h.plain
  rw [hs, List.dropLast_concat] at hplain
  have hpath : Path.Plain name ↔ isPlain (ClassName.simpleChars name.toList) = true := by
    rw [Path.Plain, hs, List.forall_mem_append, List.forall_mem_singleton]
    exact and_iff_right hplain
  have hsimple : isPlain (ClassName.simpleChars name.toList) = true ↔
      ClassName.simple name ∉ ["", ".", ".."] := by
    rw [Path.isPlain_iff, ClassName.simple]
    simp only [List.mem_cons, List.not_mem_nil, or_false, not_or, ← String.toList_inj,
      String.toList_ofList]
    exact Iff.rfl
  rw [← hsimple, ← hpath]
  exact ⟨IsInternal.plain, fun hp => ⟨h.backslash, h.nul, hp⟩⟩

/-- Every listed name is well formed but for its simple name. -/
theorem listed_name_internal_iff (h : list d path = .ok listed) (hname : name ∈ listed) :
    IsListable name ∧ (IsInternal name ↔ ClassName.simple name ∉ ["", ".", ".."]) := by
  have hlistable := isListable_of_mem h hname
  exact ⟨hlistable, hlistable.isInternal_iff⟩

def dotted : Disk where
  tree := ⟨.dir [("app.jar", .file (Archive.write
    [("a/.class", []), ("..class", []), ("b\x5c...class", []), ("b/.C.class", [])]) false)]⟩

lemma list_dotted : list dotted "app.jar" = .ok [".", "a/", "b/..", "b/.C"] := by
  decide +kernel

theorem listed_name_internal_of_dotted :
    list dotted "app.jar" = .ok [".", "a/", "b/..", "b/.C"] ∧ IsInternal "b/.C" := by
  have hmem : "b/.C" ∈ [".", "a/", "b/..", "b/.C"] := by decide
  obtain ⟨-, hinternal⟩ := listed_name_internal_iff list_dotted hmem
  exact ⟨list_dotted, hinternal.mpr (by decide)⟩

theorem listed_names_malformed : list dotted "app.jar" = .ok [".", "a/", "b/..", "b/.C"] ∧
    ¬ IsInternal "." ∧ ¬ IsInternal "a/" ∧ ¬ IsInternal "b/.." := by
  refine ⟨list_dotted, ?_, ?_, ?_⟩ <;> exact fun h => absurd h.plain (by decide)

end ClassBatch.Catalog
