import ClassBatch.Text.Blank
import Mathlib.Data.List.Basic
import Mathlib.Data.List.Induction
import Mathlib.Data.List.TakeWhile

/-! Cutting texts at separators and at their ends. -/

namespace ClassBatch.Text

variable {p q : Char → Bool} {c : Char} {s t : List Char}

lemma exists_splitAll_eq_cons (p : Char → Bool) (s : List Char) :
    ∃ part parts, splitAll p s = part :: parts := by
  cases hs : splitAll p s with
  | nil => exact absurd hs (splitAll_ne_nil p s)
  | cons part parts => exact ⟨part, parts, rfl⟩

@[simp] lemma splitAll_nil (p : Char → Bool) : splitAll p [] = [[]] := rfl

lemma splitAll_cons_of_sep (h : p c = true) (s : List Char) :
    splitAll p (c :: s) = [] :: splitAll p s := by
  obtain ⟨part, parts, hs⟩ := exists_splitAll_eq_cons p s
  simp [splitAll, hs, h]

lemma splitAll_cons_of_not_sep {part : List Char} {parts : List (List Char)} (h : p c = false)
    (hs : splitAll p s = part :: parts) : splitAll p (c :: s) = (c :: part) :: parts := by
  simp [splitAll, hs, h]

lemma splitAll_of_forall_not_sep (h : ∀ c ∈ s, p c = false) : splitAll p s = [s] := by
  induction s with
  | nil => rfl
  | cons c s ih =>
    rw [List.forall_mem_cons] at h
    exact splitAll_cons_of_not_sep h.1 (ih h.2)

lemma splitAll_append_sep (h : p c = true) (s t : List Char) :
    splitAll p (s ++ c :: t) = splitAll p s ++ splitAll p t := by
  induction s with
  | nil => exact splitAll_cons_of_sep h t
  | cons d s ih =>
    obtain ⟨part, parts, hs⟩ := exists_splitAll_eq_cons p s
    rw [hs] at ih
    cases hd : p d with
    | true => rw [List.cons_append, splitAll_cons_of_sep hd, splitAll_cons_of_sep hd, ih, hs]; rfl
    | false =>
      rw [List.cons_append, splitAll_cons_of_not_sep hd hs]
      exact splitAll_cons_of_not_sep hd ih

lemma splitAll_append_of_forall_not_sep (h : ∀ c ∈ t, p c = false) (s : List Char) :
    ∃ parts part, splitAll p s = parts ++ [part] ∧ splitAll p (s ++ t) = parts ++ [part ++ t] := by
  induction s with
  | nil => exact ⟨[], [], rfl, splitAll_of_forall_not_sep h⟩
  | cons c s ih =>
    obtain ⟨parts, part, hs, hst⟩ := ih
    cases hc : p c with
    | true =>
      refine ⟨[] :: parts, part, ?_, ?_⟩
      · rw [splitAll_cons_of_sep hc, hs]; rfl
      · rw [List.cons_append, splitAll_cons_of_sep hc, hst]; rfl
    | false =>
      cases parts with
      | nil => exact ⟨[], c :: part, splitAll_cons_of_not_sep hc hs,
          splitAll_cons_of_not_sep hc hst⟩
      | cons first parts => exact ⟨(c :: first) :: parts, part, splitAll_cons_of_not_sep hc hs,
          splitAll_cons_of_not_sep hc hst⟩

lemma splitAll_eq_concat (p : Char → Bool) (s : List Char) :
    ∃ parts part, splitAll p s = parts ++ [part] ∧ (parts = [] ∧ s = part ∨
      ∃ start c, p c = true ∧ s = start ++ c :: part ∧ splitAll p start = parts) := by
  induction s using List.reverseRecOn with
  | nil => exact ⟨[], [], rfl, Or.inl ⟨rfl, rfl⟩⟩
  | append_singleton s c ih =>
    cases hc : p c with
    | true =>
      refine ⟨splitAll p s, [], ?_, Or.inr ⟨s, c, hc, rfl, rfl⟩⟩
      exact splitAll_append_sep hc s []
    | false =>
      obtain ⟨parts, part, hs, hst⟩ :=
        splitAll_append_of_forall_not_sep (t := [c]) (by simpa using hc) s
      refine ⟨parts, part ++ [c], hst, ?_⟩
      obtain ⟨parts', part', hs', hcases⟩ := ih
      obtain ⟨rfl, rfl⟩ := List.append_singleton_inj.mp (hs'.symm.trans hs)
      rcases hcases with ⟨rfl, rfl⟩ | ⟨start, d, hd, rfl, hstart⟩
      · exact Or.inl ⟨rfl, rfl⟩
      · exact Or.inr ⟨start, d, hd, by simp, hstart⟩

lemma not_sep_of_mem_splitAll {part : List Char} (h : part ∈ splitAll p s) :
    ∀ c ∈ part, p c = false := by
  induction s generalizing part with
  | nil =>
    rw [splitAll_nil, List.mem_singleton] at h
    simp [h]
  | cons d s ih =>
    obtain ⟨first, parts, hs⟩ := exists_splitAll_eq_cons p s
    cases hd : p d with
    | true =>
      rw [splitAll_cons_of_sep hd, List.mem_cons] at h
      rcases h with rfl | h
      · simp
      · exact ih h
    | false =>
      rw [splitAll_cons_of_not_sep hd hs, List.mem_cons] at h
      rcases h with rfl | h
      · rw [List.forall_mem_cons]
        exact ⟨hd, ih (hs ▸ List.mem_cons_self)⟩
      · exact ih (hs ▸ List.mem_cons_of_mem first h)

lemma splitAll_eq_flatMap (h : ∀ c, p c = true → q c = true) (s : List Char) :
    splitAll q s = (splitAll p s).flatMap (splitAll q) := by
  induction s with
  | nil => rfl
  | cons c s ih =>
    obtain ⟨part, parts, hs⟩ := exists_splitAll_eq_cons p s
    rw [hs, List.flatMap_cons] at ih
    cases hp : p c with
    | true =>
      rw [splitAll_cons_of_sep (h c hp), splitAll_cons_of_sep hp, hs, ih]
      rfl
    | false =>
      rw [splitAll_cons_of_not_sep hp hs, List.flatMap_cons]
      obtain ⟨first, rest, hpart⟩ := exists_splitAll_eq_cons q part
      rw [hpart] at ih
      cases hq : q c with
      | true => rw [splitAll_cons_of_sep hq, splitAll_cons_of_sep hq, ih, hpart]; rfl
      | false =>
        rw [splitAll_cons_of_not_sep hq hpart]
        exact splitAll_cons_of_not_sep hq ih

lemma head?_ne_of_splitAll {part : List Char} {parts : List (List Char)}
    (hs : splitAll p s = part :: parts) (h : part ≠ []) : ∀ c, p c = true → s.head? ≠ some c := by
  rintro c hc hhead
  cases s with
  | nil => cases hhead
  | cons d s =>
    obtain rfl : d = c := Option.some.inj hhead
    rw [splitAll_cons_of_sep hc, List.cons.injEq] at hs
    exact h hs.1.symm

lemma intercalate_splitAll (separator : Char) (s : List Char) :
    [separator].intercalate (splitAll (· = separator) s) = s := by
  induction s with
  | nil => rfl
  | cons c s ih =>
    obtain ⟨part, parts, hs⟩ := exists_splitAll_eq_cons (· = separator) s
    rw [hs] at ih
    by_cases hc : c = separator
    · rw [splitAll_cons_of_sep (decide_eq_true hc), hs, List.intercalate_cons_cons, ih, hc]
      rfl
    · rw [splitAll_cons_of_not_sep (decide_eq_false hc) hs]
      cases parts with
      | nil =>
        rw [List.intercalate_singleton] at ih ⊢
        rw [ih]
      | cons next parts =>
        rw [List.intercalate_cons_cons] at ih ⊢
        rw [List.cons_append, List.cons_append, ih]

lemma splitAll_injective (separator : Char) : Function.Injective (splitAll (· = separator)) := by
  intro s t h
  rw [← intercalate_splitAll separator s, h, intercalate_splitAll]

lemma exists_of_splitAll_eq_append {parts rest : List (List Char)}
    (h : splitAll p s = parts ++ rest) (hparts : parts ≠ []) (hrest : rest ≠ []) :
    ∃ start c stop, p c = true ∧ s = start ++ c :: stop ∧ splitAll p start = parts ∧
      splitAll p stop = rest := by
  induction s generalizing parts with
  | nil =>
    obtain ⟨part, parts, rfl⟩ := List.exists_cons_of_ne_nil hparts
    rw [splitAll_nil, List.cons_append, List.cons.injEq] at h
    exact absurd (List.append_eq_nil_iff.mp h.2.symm).2 hrest
  | cons d s ih =>
    obtain ⟨part, parts, rfl⟩ := List.exists_cons_of_ne_nil hparts
    cases hd : p d with
    | true =>
      rw [splitAll_cons_of_sep hd, List.cons_append, List.cons.injEq] at h
      obtain ⟨rfl, h⟩ := h
      by_cases hempty : parts = []
      · subst hempty
        exact ⟨[], d, s, hd, rfl, rfl, h⟩
      · obtain ⟨start, c, stop, hc, rfl, hstart, hstop⟩ := ih h hempty
        exact ⟨d :: start, c, stop, hc, rfl, by rw [splitAll_cons_of_sep hd, hstart], hstop⟩
    | false =>
      obtain ⟨first, others, hs⟩ := exists_splitAll_eq_cons p s
      rw [splitAll_cons_of_not_sep hd hs, List.cons_append, List.cons.injEq] at h
      obtain ⟨rfl, rfl⟩ := h
      obtain ⟨start, c, stop, hc, rfl, hstart, hstop⟩ := ih hs (List.cons_ne_nil first parts)
      exact ⟨d :: start, c, stop, hc, rfl, splitAll_cons_of_not_sep hd hstart, hstop⟩

lemma beforeEnding?_eq_some {ending stem : List Char} :
    beforeEnding? ending s = some stem ↔ s = stem ++ ending := by
  rw [beforeEnding?]
  constructor
  · intro h
    split at h
    · rename_i hsuffix
      obtain ⟨start, rfl⟩ := List.isSuffixOf_iff_suffix.mp hsuffix
      simp at h
      rw [h]
    · cases h
  · rintro rfl
    simp

lemma beforeEnding?_of_not_mem {ending : List Char} (hending : c ∈ ending)
    (h : c ∉ s) : beforeEnding? ending s = none := by
  cases hstem : beforeEnding? ending s with
  | none => rfl
  | some stem =>
    have hs := beforeEnding?_eq_some.mp hstem
    exact absurd (hs ▸ List.mem_append_right stem hending) h

lemma length_getD_beforeEnding?_le (ending s : List Char) :
    ((beforeEnding? ending s).getD s).length ≤ s.length := by
  cases hstem : beforeEnding? ending s with
  | none => exact le_rfl
  | some stem =>
    rw [beforeEnding?_eq_some.mp hstem, List.length_append]
    exact Nat.le_add_right stem.length ending.length

lemma afterStart?_append (start rest : List Char) :
    afterStart? start (start ++ rest) = some rest := by
  induction start with
  | nil => rfl
  | cons c start ih => simp [afterStart?, ih]

lemma afterStart?_eq_some_iff {start rest : List Char} :
    afterStart? start s = some rest ↔ s = start ++ rest :=
  ⟨afterStart?_eq_some, fun h => h ▸ afterStart?_append start rest⟩

lemma afterStart?_of_not_mem {start : List Char} (hstart : c ∈ start) (h : c ∉ s) :
    afterStart? start s = none := by
  rw [Option.eq_none_iff_forall_ne_some]
  intro rest hrest
  exact absurd (afterStart?_eq_some hrest ▸ List.mem_append_left rest hstart) h

lemma dropWhile_eq_self_iff_head? : s.dropWhile p = s ↔ ∀ c, s.head? = some c → p c = false := by
  cases s with
  | nil => simp
  | cons d s => simp [List.dropWhile_eq_self_iff]

lemma trimEnd_eq_self_iff : trimEnd p s = s ↔ ∀ c, s.getLast? = some c → p c = false := by
  rw [trimEnd, List.reverse_eq_iff, dropWhile_eq_self_iff_head?, List.head?_reverse]

lemma trimEnd_sublist (p : Char → Bool) (s : List Char) : (trimEnd p s).Sublist s := by
  rw [trimEnd, ← List.reverse_sublist, List.reverse_reverse]
  exact List.dropWhile_sublist p

lemma trimBoth_sublist (p : Char → Bool) (s : List Char) : (trimBoth p s).Sublist s :=
  (trimEnd_sublist p _).trans (List.dropWhile_sublist p)

lemma trimBoth_eq_self_iff : trimBoth p s = s ↔
    (∀ c, s.head? = some c → p c = false) ∧ ∀ c, s.getLast? = some c → p c = false := by
  rw [← dropWhile_eq_self_iff_head?, ← trimEnd_eq_self_iff]
  constructor
  · intro h
    have hsublist : s.Sublist (s.dropWhile p) := by
      have htrim := trimEnd_sublist p (s.dropWhile p)
      rwa [← trimBoth, h] at htrim
    have hdrop := (List.dropWhile_sublist p).antisymm hsublist
    rw [trimBoth, hdrop] at h
    exact ⟨hdrop, h⟩
  · rintro ⟨hstart, hend⟩
    rw [trimBoth, hstart, hend]

lemma trimBoth_mono (h : ∀ c, q c = true → p c = true) (hs : trimBoth p s = s) :
    trimBoth q s = s := by
  rw [trimBoth_eq_self_iff] at hs ⊢
  have hfalse : ∀ c, p c = false → q c = false := by
    intro c hp
    rw [Bool.eq_false_iff]
    intro hq
    rw [h c hq] at hp
    cases hp
  exact ⟨fun c hc => hfalse c (hs.1 c hc), fun c hc => hfalse c (hs.2 c hc)⟩

lemma trimBoth_of_splitAll (h : ∀ part ∈ splitAll p s, part ≠ []) : trimBoth p s = s := by
  rw [trimBoth_eq_self_iff]
  constructor
  · intro c hc
    obtain ⟨first, rest, hs⟩ := exists_splitAll_eq_cons p s
    have hfirst := h first (hs ▸ List.mem_cons_self)
    rw [Bool.eq_false_iff]
    intro hsep
    exact head?_ne_of_splitAll hs hfirst c hsep hc
  · intro c hc
    obtain ⟨parts, part, hs, hcases⟩ := splitAll_eq_concat p s
    have hmem : part ∈ splitAll p s := hs ▸ List.mem_append_right parts List.mem_cons_self
    have hlast : s.getLast? = part.getLast? := by
      rcases hcases with ⟨-, hpart⟩ | ⟨start, d, -, hsplit, -⟩
      · rw [hpart]
      · rw [hsplit, List.getLast?_append_of_ne_nil _ (List.cons_ne_nil d part),
          List.getLast?_cons_of_ne_nil (h part hmem)]
    rw [hlast] at hc
    exact not_sep_of_mem_splitAll hmem c (List.mem_of_getLast? hc)

lemma trimEnd_append (h : ∀ c ∈ t, p c = true) (s : List Char) :
    trimEnd p (s ++ t) = trimEnd p s := by
  have hreverse : ∀ c ∈ t.reverse, p c = true := fun c hc => h c (List.mem_reverse.mp hc)
  rw [trimEnd, List.reverse_append, List.dropWhile_append_of_pos hreverse, trimEnd]

lemma trimBoth_append (h : ∀ c ∈ t, p c = true) (s : List Char) :
    trimBoth p (s ++ t) = trimBoth p s := by
  rw [trimBoth, trimBoth, List.dropWhile_append]
  split_ifs with hs
  · rw [List.dropWhile_eq_nil_iff.mpr h, List.isEmpty_iff.mp hs]
  · exact trimEnd_append h _

lemma trimBoth_append_left (h : ∀ c ∈ t, p c = true) (s : List Char) :
    trimBoth p (t ++ s) = trimBoth p s := by
  rw [trimBoth, List.dropWhile_append_of_pos h, trimBoth]

lemma trimEnd_isInitial (p : Char → Bool) (s : List Char) : trimEnd p s <+: s := by
  rw [trimEnd, ← List.reverse_suffix, List.reverse_reverse]
  exact List.dropWhile_suffix p

lemma trimBoth_trimBoth (p : Char → Bool) (s : List Char) :
    trimBoth p (trimBoth p s) = trimBoth p s := by
  rw [trimBoth_eq_self_iff]
  constructor
  · intro c hc
    obtain ⟨rest, hrest⟩ := trimEnd_isInitial p (s.dropWhile p)
    obtain ⟨tail, htail⟩ := List.head?_eq_some_iff.mp hc
    have hhead : (s.dropWhile p).head? = some c := by
      rw [← hrest, ← trimBoth, htail]
      rfl
    simpa [hhead] using List.head?_dropWhile_not p s
  · intro c hc
    rw [trimBoth, trimEnd, List.getLast?_reverse] at hc
    simpa [hc] using List.head?_dropWhile_not p (s.dropWhile p).reverse

lemma exists_trimEnd_append (p : Char → Bool) (s : List Char) :
    ∃ stop, s = trimEnd p s ++ stop ∧ ∀ c ∈ stop, p c = true := by
  refine ⟨(s.reverse.takeWhile p).reverse, ?_, fun c hc => ?_⟩
  · rw [trimEnd, ← List.reverse_append, List.takeWhile_append_dropWhile, List.reverse_reverse]
  · exact List.mem_takeWhile_imp (List.mem_reverse.mp hc)

lemma exists_append_trimBoth_append (p : Char → Bool) (s : List Char) :
    ∃ start stop, s = start ++ trimBoth p s ++ stop ∧ (∀ c ∈ start, p c = true) ∧
      ∀ c ∈ stop, p c = true := by
  obtain ⟨stop, hs, hstop⟩ := exists_trimEnd_append p (s.dropWhile p)
  refine ⟨s.takeWhile p, stop, ?_, fun c hc => List.mem_takeWhile_imp hc, hstop⟩
  rw [List.append_assoc, trimBoth, ← hs, List.takeWhile_append_dropWhile]

lemma trimBoth_eq_nil_iff : trimBoth p s = [] ↔ ∀ c ∈ s, p c = true := by
  constructor
  · intro h
    obtain ⟨start, stop, hs, hstart, hstop⟩ := exists_append_trimBoth_append p s
    rw [h, List.append_nil] at hs
    rw [hs, List.forall_mem_append]
    exact ⟨hstart, hstop⟩
  · intro h
    exact trimBoth_append h []

lemma trimBoth_framed {u : List Char} (hs : trimBoth p s = s) (hne : s ≠ [])
    (ht : ∀ c ∈ t, p c = false) (hu : ∀ c ∈ u, p c = false) :
    trimBoth p (t ++ s ++ u) = t ++ s ++ u := by
  rw [trimBoth_eq_self_iff] at hs ⊢
  constructor
  · intro c hc
    cases t with
    | nil =>
      rw [List.nil_append, List.head?_append_of_ne_nil _ hne] at hc
      exact hs.1 c hc
    | cons d t =>
      cases hc
      exact ht _ List.mem_cons_self
  · intro c hc
    by_cases hempty : u = []
    · subst hempty
      rw [List.append_nil, List.getLast?_append_of_ne_nil _ hne] at hc
      exact hs.2 c hc
    · rw [List.getLast?_append_of_ne_nil _ hempty] at hc
      exact hu c (List.mem_of_getLast? hc)

lemma append_cons_inj {a b rest rest' : List Char} {c : Char} (ha : c ∉ a) (hb : c ∉ b)
    (h : a ++ c :: rest = b ++ c :: rest') : a = b ∧ rest = rest' := by
  induction a generalizing b with
  | nil =>
    cases b with
    | nil => exact ⟨rfl, (List.cons.inj h).2⟩
    | cons y b => exact absurd ((List.cons.inj h).1 ▸ List.mem_cons_self) hb
  | cons x a ih =>
    cases b with
    | nil => exact absurd ((List.cons.inj h).1 ▸ List.mem_cons_self) ha
    | cons y b =>
      obtain ⟨rfl, htail⟩ := List.cons.inj h
      obtain ⟨rfl, hrest⟩ := ih (List.not_mem_of_not_mem_cons ha)
        (List.not_mem_of_not_mem_cons hb) htail
      exact ⟨rfl, hrest⟩

end ClassBatch.Text
