import ClassBatch.Proofs.Package

/-! What normalizing leaves at the ends of a name. Slashes are cut off before dots and backslashes
become slashes, and blanks before that, so that a normal form may have to be normalized again. -/

namespace ClassBatch

open Text

namespace ClassName

variable {s : List Char}

def ends (s : List Char) : List Char :=
  s.head?.toList ++ s.getLast?.toList

def separators : List Char :=
  ['/', '.', '\x5c']

def slashed (c : Char) : Char :=
  if separator c then '/' else c

def bareChars (raw : List Char) : List Char :=
  trimBoth (· = '/') (trimBoth isBlank raw)

def stem (raw : String) : List Char :=
  (beforeEnding? ".class".toList (bareChars raw.toList)).getD (bareChars raw.toList)

lemma toList_normalize (raw : String) : (normalize raw).toList = (stem raw).map slashed := by
  rw [normalize, String.toList_ofList]
  rfl

lemma slashed_eq_slash_iff {c : Char} : slashed c = '/' ↔ c ∈ separators := by
  by_cases h : separator c = true
  · have hc : c = '.' ∨ c = '\x5c' := by simpa [separator] using h
    rcases hc with rfl | rfl <;> decide
  · have hc : c ≠ '.' ∧ c ≠ '\x5c' := by simpa [separator] using h
    simp [slashed, h, separators, hc.1, hc.2]

lemma slashed_of_not_mem {c : Char} (h : c ∉ separators) : slashed c = c := by
  simp only [separators, List.mem_cons, List.not_mem_nil, or_false, not_or] at h
  simp [slashed, separator, h.2.1, h.2.2]

lemma map_slashed_of_not_mem (hdot : '.' ∉ s) (hbackslash : '\x5c' ∉ s) : s.map slashed = s := by
  refine (List.map_congr_left fun c hc => ?_).trans (List.map_id s)
  by_cases hslash : c = '/'
  · rw [hslash]
    rfl
  · apply slashed_of_not_mem
    simp only [separators, List.mem_cons, List.not_mem_nil, or_false, not_or]
    exact ⟨hslash, ne_of_mem_of_not_mem hc hdot, ne_of_mem_of_not_mem hc hbackslash⟩

lemma ends_map (f : Char → Char) (s : List Char) : ends (s.map f) = (ends s).map f := by
  rw [ends, List.head?_map, List.getLast?_map, ends, List.map_append]
  cases s.head? <;> cases s.getLast? <;> rfl

lemma trimBoth_eq_self_iff_ends {p : Char → Bool} :
    trimBoth p s = s ↔ ∀ c ∈ ends s, p c = false := by
  simp only [trimBoth_eq_self_iff, ends, List.mem_append, Option.mem_toList, or_imp,
    forall_and]

lemma backslash_not_mem_normalize (raw : String) : '\x5c' ∉ (normalize raw).toList := by
  rw [toList_normalize]
  intro h
  obtain ⟨c, -, hc⟩ := List.mem_map.mp h
  by_cases hsep : separator c = true
  · rw [slashed, if_pos hsep] at hc
    exact absurd hc (by decide)
  · rw [slashed, if_neg hsep] at hc
    subst hc
    exact hsep rfl

lemma dot_not_mem_normalize (raw : String) : '.' ∉ (normalize raw).toList := by
  rw [normalize, String.toList_ofList]
  exact dot_not_mem_normalizeChars raw.toList

lemma bareChars_eq_self_iff : bareChars s = s ↔ trimBoth isEdge s = s := by
  constructor
  · intro h
    have hblank : trimBoth isBlank s = s := by
      refine (trimBoth_sublist isBlank s).eq_of_length_le ?_
      have hlength := (trimBoth_sublist (· = '/') (trimBoth isBlank s)).length_le
      rwa [← bareChars, h] at hlength
    rw [bareChars, hblank, trimBoth_eq_self_iff_ends] at h
    rw [trimBoth_eq_self_iff_ends] at hblank ⊢
    intro c hc
    rw [isEdge, h c hc, hblank c hc, Bool.or_false]
  · intro h
    have hblank : trimBoth isBlank s = s :=
      trimBoth_mono (fun c hc => by rw [isEdge, hc, Bool.or_true]) h
    have hslash : trimBoth (· = '/') s = s :=
      trimBoth_mono (fun c hc => by rw [isEdge, hc, Bool.true_or]) h
    rw [bareChars, hblank, hslash]

lemma toList_normalize_normalize (raw : String) :
    (normalize (normalize raw)).toList = bareChars (normalize raw).toList := by
  have hsublist : (bareChars (normalize raw).toList).Sublist (normalize raw).toList :=
    (trimBoth_sublist _ _).trans (trimBoth_sublist _ _)
  have hdot := fun h => dot_not_mem_normalize raw (hsublist.subset h)
  have hbackslash := fun h => backslash_not_mem_normalize raw (hsublist.subset h)
  have hending : beforeEnding? ".class".toList (bareChars (normalize raw).toList) = none :=
    beforeEnding?_of_not_mem (by decide) hdot
  rw [toList_normalize, stem, hending, Option.getD_none, map_slashed_of_not_mem hdot hbackslash]

lemma slash_not_mem_ends_iff (raw : String) :
    '/' ∉ ends (normalize raw).toList ↔ ∀ c ∈ ends (stem raw), c ∉ separators := by
  rw [toList_normalize, ends_map, List.mem_map, not_exists]
  simp only [not_and, slashed_eq_slash_iff]

lemma normalize_normalize_iff (raw : String) : normalize (normalize raw) = normalize raw ↔
    ∀ c ∈ ends (stem raw), c ∉ separators ∧ isBlank c = false := by
  rw [← String.toList_inj, toList_normalize_normalize, bareChars_eq_self_iff,
    trimBoth_eq_self_iff_ends, toList_normalize, ends_map, List.forall_mem_map]
  refine forall₂_congr fun c _ => ?_
  by_cases hc : c ∈ separators
  · have hslash := slashed_eq_slash_iff.mpr hc
    simp [hc, hslash, isEdge]
  · have hslash : c ≠ '/' := fun h => hc (h ▸ List.mem_cons_self)
    simp [hc, slashed_of_not_mem hc, isEdge, hslash]

lemma normalize_eq_empty_iff {raw : String} : normalize raw = "" ↔ stem raw = [] := by
  rw [← String.toList_inj, toList_normalize]
  exact List.map_eq_nil_iff

def IsVoid (raw : String) : Prop :=
  ∃ (leading trailing : List Char) (n : Nat),
    raw.toList = leading ++ List.replicate n '/' ++ trailing ∧
    (∀ c ∈ leading, isBlank c = true) ∧ ∀ c ∈ trailing, isBlank c = true

lemma bareChars_eq_nil_iff {raw : String} : bareChars raw.toList = [] ↔ IsVoid raw := by
  rw [bareChars, trimBoth_eq_nil_iff]
  constructor
  · intro h
    obtain ⟨leading, trailing, hraw, hleading, htrailing⟩ :=
      exists_append_trimBoth_append isBlank raw.toList
    have hslashes := List.eq_replicate_of_mem fun c hc => of_decide_eq_true (h c hc)
    exact ⟨leading, trailing, _, hslashes ▸ hraw, hleading, htrailing⟩
  · rintro ⟨leading, trailing, n, hraw, hleading, htrailing⟩ c hc
    rw [hraw, trimBoth_append htrailing, trimBoth_append_left hleading] at hc
    have hslash := List.eq_of_mem_replicate ((trimBoth_sublist _ _).subset hc)
    exact decide_eq_true hslash

lemma stem_eq_nil_iff {raw : String} (h : ∀ c ∈ raw.toList, isBlank c = true ∨ c ∈ separators) :
    stem raw = [] ↔ IsVoid raw := by
  have hc : 'c' ∉ bareChars raw.toList := by
    intro hmem
    have hsublist := (trimBoth_sublist (· = '/') _).trans (trimBoth_sublist isBlank raw.toList)
    exact absurd (h 'c' (hsublist.subset hmem)) (by decide)
  have hending : beforeEnding? ".class".toList (bareChars raw.toList) = none :=
    beforeEnding?_of_not_mem (by decide) hc
  rw [stem, hending, Option.getD_none, bareChars_eq_nil_iff]

end ClassName

namespace Pattern

variable {raw : String}

lemma parseExact_eq_ite (raw : String) : parseExact raw =
    if ClassName.normalize raw = "" then .error .emptyName
    else .ok (.exact (ClassName.normalize raw)) := by
  simp only [parseExact, ofName, checked, compile, String.isEmpty_iff]
  split <;> rfl

lemma parseExact_eq_emptyName_iff :
    parseExact raw = .error .emptyName ↔ ClassName.stem raw = [] := by
  rw [← ClassName.normalize_eq_empty_iff, parseExact_eq_ite]
  split
  · rename_i hempty
    exact iff_of_true rfl hempty
  · rename_i hne
    exact iff_of_false (fun h => by cases h) hne

lemma parsePackage_eq_emptyPackage_iff :
    parsePackage raw = .error .emptyPackage ↔ ClassName.stem raw = [] := by
  rw [← ClassName.normalize_eq_empty_iff, parsePackage_eq_ite]
  split
  · rename_i hempty
    exact iff_of_true rfl hempty
  · rename_i hne
    exact iff_of_false (fun h => by cases h) hne

end Pattern

namespace ClassName

variable {package : String} {text : List Char} {c : Char}

lemma normalize_append_separator (h : IsCanonical package)
    (hw : List.Forall₂ WrittenAs package.toList text) (hc : separator c = true) :
    normalize (String.ofList (text ++ [c])) = package ++ "/" := by
  have hbody : trimBoth isEdge text = text := (IsPackage.bare hw).trimBoth_body h
  have hne : text ≠ [] := (IsPackage.bare hw).body_ne_nil h
  have hmark : c = '.' ∨ c = '\x5c' := by simpa [separator] using hc
  have hedge : isEdge c = false ∧ c ≠ 's' ∧ slashed c = '/' := by
    rcases hmark with rfl | rfl <;> decide
  have hframed : trimBoth isEdge (text ++ [c]) = text ++ [c] :=
    trimBoth_framed (t := []) hbody hne (List.forall_mem_nil _) (by simpa using hedge.1)
  have hending : beforeEnding? ".class".toList (text ++ [c]) = none := by
    rw [Option.eq_none_iff_forall_ne_some]
    intro start hstart
    have hlast := congrArg List.getLast? (beforeEnding?_eq_some.mp hstart)
    rw [List.getLast?_concat, List.getLast?_append] at hlast
    exact hedge.2.1 (Option.some.inj hlast)
  have hname : text.map slashed = package.toList := map_written hw h.dot h.backslash
  rw [← String.toList_inj, toList_normalize, stem, String.toList_ofList (l := text ++ [c]),
    bareChars_eq_self_iff.mpr hframed, hending, Option.getD_none, List.map_append, hname,
    List.map_singleton, hedge.2.2, String.toList_append]
  rfl

end ClassName

namespace Pattern

open ClassName

lemma within_append_slash {package : String} {names : List String}
    (h : ∀ name ∈ names, ∀ segment ∈ segmentsOf name, segment ≠ []) :
    within (package ++ "/") names = [] := by
  rw [List.eq_nil_iff_forall_not_mem]
  intro name hname
  obtain ⟨hmem, hbelow⟩ := mem_within.mp hname
  have hslash : (package ++ "/").toList = package.toList ++ '/' :: [] := String.toList_append
  have hempty : [] ∈ segmentsOf (package ++ "/") := by
    rw [segmentsOf_append_slash hslash]
    exact List.mem_append_right _ List.mem_cons_self
  exact h name hmem [] (hbelow.1.subset hempty) rfl

end Pattern

namespace ClassName

/-- A normal form begins or ends with a slash exactly if a separator was at the end of what was
trimmed, and it is final unless that or a blank was there. Of the texts without any other character
only slashes between blanks are empty, and a dot or backslash behind a package leaves nothing to
select. -/
theorem normalize_settled_iff (raw : String) :
    ('/' ∉ ends (normalize raw).toList ↔ ∀ c ∈ ends (stem raw), c ∉ separators) ∧
    (normalize (normalize raw) = normalize raw ↔
      ∀ c ∈ ends (stem raw), c ∉ separators ∧ isBlank c = false) ∧
    (Pattern.parseExact raw = .error .emptyName ↔ stem raw = []) ∧
    (Pattern.parsePackage raw = .error .emptyPackage ↔ stem raw = []) ∧
    ((∀ c ∈ raw.toList, isBlank c = true ∨ c ∈ separators) → (stem raw = [] ↔ IsVoid raw)) ∧
    ∀ package text c, IsCanonical package → List.Forall₂ WrittenAs package.toList text →
      separator c = true → raw = String.ofList (text ++ [c]) →
        Pattern.parsePackage raw = .ok (.package (package ++ "/")) ∧
        ∀ names, (∀ name ∈ names, ∀ segment ∈ segmentsOf name, segment ≠ []) →
          (Pattern.package (package ++ "/")).select names = .ok [] ∧
          (Pattern.package package).select names = .ok (Pattern.within package names) := by
  refine ⟨slash_not_mem_ends_iff raw, normalize_normalize_iff raw,
    Pattern.parseExact_eq_emptyName_iff, Pattern.parsePackage_eq_emptyPackage_iff,
    stem_eq_nil_iff, ?_⟩
  rintro package text c hpackage hw hc rfl
  have hslash : package ++ "/" ≠ "" := by simp
  have hne : package ≠ "" := fun hempty => hpackage.ne_nil (by rw [hempty]; rfl)
  refine ⟨?_, fun names hnames => ⟨?_, Pattern.select_package hne hnames⟩⟩
  · rw [Pattern.parsePackage_eq_ite, normalize_append_separator hpackage hw hc, if_neg hslash]
  · rw [Pattern.select_package hslash hnames, Pattern.within_append_slash hnames]

theorem normalize_settled_iff_of_separators :
    '/' ∈ ends (normalize " .a.b/.class ").toList ∧
    normalize (normalize " .a.b/.class ") ≠ normalize " .a.b/.class " ∧
    (∀ c ∈ " /./ ".toList, isBlank c = true ∨ c ∈ separators) ∧
    Pattern.parseExact " /./ " ≠ .error .emptyName ∧ Pattern.parseExact " // " = .error .emptyName ∧
    IsCanonical "org/example" ∧
    Pattern.parsePackage "org.example." = .ok (.package "org/example/") ∧
    (Pattern.package "org/example/").select neighbours = .ok [] ∧
    (Pattern.package "org/example").select neighbours =
      .ok (Pattern.within "org/example" neighbours) := by
  have hseparators : ∀ c ∈ " /./ ".toList, isBlank c = true ∨ c ∈ separators := by
    simp [isBlank, separators]
  have hslashes : ∀ c ∈ " // ".toList, isBlank c = true ∨ c ∈ separators := by
    simp [isBlank, separators]
  have hcanonical : IsCanonical "org/example" :=
    ⟨.of_normalize_eq (by decide), by decide, by decide⟩
  have hnames : ∀ name ∈ neighbours, ∀ segment ∈ segmentsOf name, segment ≠ [] := by decide
  obtain ⟨hstart, hsettled, -⟩ := normalize_settled_iff " .a.b/.class "
  obtain ⟨-, -, hexact, -⟩ := normalize_settled_iff " /./ "
  obtain ⟨-, -, hvoid, -, hshape, -⟩ := normalize_settled_iff " // "
  obtain ⟨-, -, -, -, -, htrailing⟩ := normalize_settled_iff "org.example."
  obtain ⟨hparse, hselect⟩ := htrailing "org/example" "org.example".toList '.' hcanonical
    (by decide) (by decide) (by decide)
  obtain ⟨hnothing, hwithin⟩ := hselect neighbours hnames
  have hends : ¬ ∀ c ∈ ends (stem " .a.b/.class "), c ∉ separators := fun h =>
    h '/' (by decide) (by decide)
  have hnonempty : stem " /./ " ≠ [] := by decide
  have hslashesonly : IsVoid " // " :=
    ⟨[' '], [' '], 2, by decide, by simp [isBlank], by simp [isBlank]⟩
  exact ⟨not_not.mp (mt hstart.mp hends), mt hsettled.mp fun h => hends fun c hc => (h c hc).1,
    hseparators, mt hexact.mp hnonempty, hvoid.mpr ((hshape hslashes).mpr hslashesonly),
    hcanonical, hparse, hnothing, hwithin⟩

/-- Each is a text that normalizing does not bring into its final form. -/
theorem separators_left_at_ends :
    normalize ".a" = "/a" ∧ normalize (normalize ".a") = "a" ∧
    Pattern.parseExact "." = .ok (.exact "/") ∧
    Pattern.parsePackage "\\" = .ok (.package "/") ∧
    Pattern.parsePackage "a." = .ok (.package "a/") ∧
    Pattern.parsePackage "a" = .ok (.package "a") ∧
    (Pattern.package "a/").select ["a/B"] = .ok [] ∧
    (Pattern.package "a").select ["a/B"] = .ok ["a/B"] := by
  decide

end ClassName

end ClassBatch
