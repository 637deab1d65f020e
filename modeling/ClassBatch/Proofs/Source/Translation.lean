import ClassBatch.Proofs.Source.Escapes
import Mathlib.Algebra.Group.Nat.Even
import Mathlib.Data.List.DropRight

/-! Decoding is the translation of a text from left to right. Whether a backslash begins an escape
depends on the number of backslashes before it, while the decoder reads them in pairs. -/

namespace ClassBatch.Source

section Grammar

/-- The backslashes directly before a place are even in number. -/
def IsOpen (before : List Char) : Prop :=
  Even (before.rtakeWhile (· = '\x5c')).length

def BeginsEscape (before s : List Char) : Prop :=
  IsOpen before ∧ ∃ unit spelling rest, Spells unit spelling ∧ s = spelling ++ rest

/-- `Translates before s out` says that behind `before`, which has been read, the rest `s` of a text is
translated to `out`. What was put in place of an escape is not part of `before` and is never read. -/
inductive Translates : List Char → List Char → List Char → Prop
  | nil (before : List Char) : Translates before [] []
  | scalar {before s out spelling : List Char} {c : Char} (opened : IsOpen before)
      (spells : Spells c.toNat spelling) (rest : Translates (before ++ spelling) s out) :
      Translates before (spelling ++ s) (c :: out)
  | pair {before s out spelling lowSpelling : List Char} {c : Char} {high low : Nat}
      (opened : IsOpen before) (stand : IsSurrogatePair c high low) (spells : Spells high spelling)
      (spellsLow : Spells low lowSpelling)
      (rest : Translates (before ++ (spelling ++ lowSpelling)) s out) :
      Translates before (spelling ++ (lowSpelling ++ s)) (c :: out)
  | unpaired {before s out spelling : List Char} {unit : Nat} (opened : IsOpen before)
      (spells : Spells unit spelling) (surrogate : 0xD800 ≤ unit ∧ unit < 0xE000)
      (alone : ∀ c low lowSpelling rest, IsSurrogatePair c unit low → Spells low lowSpelling →
        s ≠ lowSpelling ++ rest)
      (rest : Translates (before ++ spelling) s out) :
      Translates before (spelling ++ s) (spelling ++ out)
  | plain {before s out : List Char} {c : Char} (other : ¬ BeginsEscape before (c :: s))
      (rest : Translates (before ++ [c]) s out) : Translates before (c :: s) (c :: out)

end Grammar

variable {before s out spelling lowSpelling : List Char} {c : Char} {unit high low : Nat}

lemma isOpen_nil : IsOpen [] := by
  simp [IsOpen]

lemma isOpen_concat_of_ne (h : c ≠ '\x5c') (before : List Char) : IsOpen (before ++ [c]) := by
  rw [IsOpen, List.rtakeWhile_concat_neg _ _ _ (by simpa using h)]
  exact ⟨0, rfl⟩

lemma isOpen_concat_backslash : IsOpen (before ++ ['\x5c']) ↔ ¬ IsOpen before := by
  rw [IsOpen, List.rtakeWhile_concat_pos _ _ _ (by decide), List.length_append, List.length_singleton,
    Nat.even_add_one, IsOpen]

lemma Spells.isOpen_append (h : Spells unit spelling) (before : List Char) :
    IsOpen (before ++ spelling) := by
  obtain ⟨start, d, rfl, hd⟩ := h.exists_eq_concat
  rw [← List.append_assoc]
  exact isOpen_concat_of_ne hd _

lemma not_beginsEscape (h : ¬ ['\x5c', 'u'] <+: s) (before : List Char) :
    ¬ BeginsEscape before s := by
  rintro ⟨-, unit, spelling, rest, hspells, hs⟩
  obtain ⟨tail, rfl⟩ := hspells.exists_eq_cons
  exact h ⟨tail ++ rest, hs.symm⟩

lemma not_beginsEscape_of_ne (h : c ≠ '\x5c') (before s : List Char) :
    ¬ BeginsEscape before (c :: s) :=
  not_beginsEscape (fun hstart => h (List.cons_prefix_cons.mp hstart).1.symm) before

instance : DecidablePred IsOpen := fun before =>
  inferInstanceAs (Decidable (Even (before.rtakeWhile (· = '\x5c')).length))

def decodeBehind (before s : List Char) : List Char :=
  if IsOpen before then decodeEscapes s
  else match s with
    -- The decoder has copied this backslash together with the one before it.
    | '\x5c' :: s => '\x5c' :: decodeEscapes s
    | s => decodeEscapes s

lemma decodeBehind_of_isOpen (h : IsOpen before) : decodeBehind before s = decodeEscapes s :=
  if_pos h

lemma decodeBehind_of_not_isOpen (h : ¬ IsOpen before) (s : List Char) :
    decodeBehind before ('\x5c' :: s) = '\x5c' :: decodeEscapes s :=
  if_neg h

lemma decodeBehind_of_head? (h : s.head? ≠ some '\x5c') : decodeBehind before s = decodeEscapes s := by
  unfold decodeBehind
  split
  · rfl
  · split
    · exact absurd rfl h
    · rfl

lemma readEscape?_of_not_beginsEscape (hopen : IsOpen before) (h : ¬ BeginsEscape before s) :
    readEscape? s = none := by
  cases hread : readEscape? s with
  | none => rfl
  | some e =>
    obtain ⟨hspells, hs⟩ := readEscape?_eq_some_iff.mp hread
    exact absurd ⟨hopen, _, _, _, hspells, hs⟩ h

lemma decodeBehind_plain (h : ¬ BeginsEscape before (c :: s)) :
    decodeBehind before (c :: s) = c :: decodeBehind (before ++ [c]) s := by
  by_cases hc : c = '\x5c'
  · subst hc
    by_cases hopen : IsOpen before
    · have hclosed : ¬ IsOpen (before ++ ['\x5c']) := fun h' => isOpen_concat_backslash.mp h' hopen
      rw [decodeBehind_of_isOpen hopen]
      by_cases hs : s.head? = some '\x5c'
      · obtain ⟨s, rfl⟩ := List.head?_eq_some_iff.mp hs
        rw [decodeEscapes_backslashes, decodeBehind_of_not_isOpen hclosed]
      · rw [decodeEscapes_cons (readEscape?_of_not_beginsEscape hopen h) fun _ => hs,
          decodeBehind_of_head? hs]
    · rw [decodeBehind_of_not_isOpen hopen,
        decodeBehind_of_isOpen (isOpen_concat_backslash.mpr hopen)]
  · have hhead : (c :: s).head? ≠ some '\x5c' := fun heq => hc (Option.some.inj heq)
    rw [decodeBehind_of_head? hhead, decodeEscapes_cons_of_ne hc,
      decodeBehind_of_isOpen (isOpen_concat_of_ne hc before)]

lemma Translates.eq_decodeBehind (h : Translates before s out) : out = decodeBehind before s := by
  induction h with
  | nil before => rw [decodeBehind_of_head? (by simp), decodeEscapes_nil]
  | scalar opened spells _ ih =>
    rw [ih, decodeBehind_of_isOpen opened, decodeEscapes_scalar spells,
      decodeBehind_of_isOpen (spells.isOpen_append _)]
  | pair opened stand spells spellsLow _ ih =>
    rw [ih, decodeBehind_of_isOpen opened, decodeEscapes_pair stand spells spellsLow,
      ← List.append_assoc, decodeBehind_of_isOpen (spellsLow.isOpen_append _)]
  | unpaired opened spells surrogate alone _ ih =>
    rw [ih, decodeBehind_of_isOpen opened, decodeEscapes_unpaired spells surrogate alone,
      decodeBehind_of_isOpen (spells.isOpen_append _)]
  | plain other _ ih => rw [ih, decodeBehind_plain other]

lemma exists_translates (before s : List Char) : ∃ out, Translates before s out := by
  induction hn : s.length using Nat.strong_induction_on generalizing before s with
  | h n ih =>
    subst hn
    by_cases h : BeginsEscape before s
    · obtain ⟨hopen, unit, spelling, rest, hspells, rfl⟩ := h
      have hlength : 0 < spelling.length := by
        obtain ⟨tail, rfl⟩ := hspells.exists_eq_cons
        exact Nat.succ_pos _
      rw [List.length_append] at ih
      by_cases hvalid : unit.isValidChar
      · obtain ⟨out, hout⟩ := ih _ (by omega) (before ++ spelling) rest rfl
        rw [← toNat_ofNat hvalid] at hspells
        exact ⟨_, .scalar hopen hspells hout⟩
      · by_cases hpair : ∃ c low lowSpelling rest', IsSurrogatePair c unit low ∧
            Spells low lowSpelling ∧ rest = lowSpelling ++ rest'
        · obtain ⟨c, low, lowSpelling, rest', hstand, hlow, rfl⟩ := hpair
          rw [List.length_append] at ih
          obtain ⟨out, hout⟩ := ih _ (by omega) (before ++ (spelling ++ lowSpelling)) rest' rfl
          exact ⟨_, .pair hopen hstand hspells hlow hout⟩
        · obtain ⟨out, hout⟩ := ih _ (by omega) (before ++ spelling) rest rfl
          have hlt := hspells.unit_lt
          refine ⟨_, .unpaired hopen hspells ?_ ?_ hout⟩
          · unfold Nat.isValidChar at hvalid
            omega
          · intro c low lowSpelling rest' hstand hlow heq
            exact hpair ⟨c, low, lowSpelling, rest', hstand, hlow, heq⟩
    · cases s with
      | nil => exact ⟨[], .nil before⟩
      | cons c s =>
        obtain ⟨out, hout⟩ := ih s.length (Nat.lt_succ_self _) (before ++ [c]) s rfl
        exact ⟨_, .plain h hout⟩

lemma translates_iff : Translates before s out ↔ out = decodeBehind before s := by
  refine ⟨Translates.eq_decodeBehind, ?_⟩
  rintro rfl
  obtain ⟨out, hout⟩ := exists_translates before s
  exact hout.eq_decodeBehind ▸ hout

lemma translates_nil_iff : Translates [] s out ↔ out = decodeEscapes s := by
  rw [translates_iff, decodeBehind_of_isOpen isOpen_nil]

lemma mentionsEscape_iff : mentionsEscape s = true ↔ ['\x5c', 'u'] <:+: s := by
  fun_induction mentionsEscape s with
  | case1 rest => exact iff_of_true rfl ⟨[], rest, rfl⟩
  | case2 c rest hne ih =>
    rw [ih, List.infix_cons_iff]
    constructor
    · exact Or.inr
    · rintro (⟨tail, htail⟩ | h)
      · obtain ⟨hc, hrest⟩ := List.cons.inj htail
        exact absurd hrest.symm (hne tail hc.symm)
      · exact h
  | case3 => simp

lemma translates_self (h : ¬ ['\x5c', 'u'] <:+: s) (before : List Char) : Translates before s s := by
  induction s generalizing before with
  | nil => exact .nil before
  | cons c s ih =>
    rw [List.infix_cons_iff, not_or] at h
    exact .plain (not_beginsEscape h.1 before) (ih h.2 _)

lemma unescapeChars_eq (s : List Char) : unescapeChars s = decodeEscapes s := by
  rw [unescapeChars]
  split_ifs with h
  · rfl
  · rw [mentionsEscape_iff] at h
    exact translates_nil_iff.mp (translates_self h [])

/-- Decoding gives the one translation of a text, and returning a text without a backslash before a `u`
unread is no exception. -/
theorem unescape_eq_iff_translates (input output : String) :
    (unescape input = output ↔ Translates [] input.toList output.toList) ∧
    (unescape input).toList = decodeEscapes input.toList ∧
    (¬ ['\x5c', 'u'] <:+: input.toList → unescape input = input) := by
  have hdecode : (unescape input).toList = decodeEscapes input.toList := by
    rw [unescape, String.toList_ofList, unescapeChars_eq]
  refine ⟨?_, hdecode, ?_⟩
  · rw [translates_nil_iff, ← hdecode, String.toList_inj, eq_comm]
  · intro h
    rw [← String.toList_inj, hdecode]
    exact (translates_nil_iff.mp (translates_self h [])).symm

theorem unescape_eq_iff_translates_mixed :
    Translates [] "\\u0041\\\\u0041\\uD83D-".toList "A\\\\u0041\\uD83D-".toList ∧
      unescape "\\u0041\\\\u0041\\uD83D-" = "A\\\\u0041\\uD83D-" ∧
      ¬ ['\x5c', 'u'] <:+: "\\\\-".toList ∧ unescape "\\\\-" = "\\\\-" := by
  have hletter : Spells 0x41 "\\u0041".toList :=
    .intro 0 (i := 0) (j := 0) (k := 4) (l := 1) (by decide) (by decide) (by decide) (by decide)
  have hhigh : Spells 0xD83D "\\uD83D".toList :=
    .intro 0 (i := 13) (j := 8) (k := 3) (l := 13) (by decide) (by decide) (by decide) (by decide)
  have htranslates :
      Translates [] "\\u0041\\\\u0041\\uD83D-".toList "A\\\\u0041\\uD83D-".toList := by
    refine .scalar (c := 'A') isOpen_nil hletter (.plain (not_beginsEscape (by decide) _) ?_)
    -- The second of two backslashes, so that no escape begins in spite of the `u`.
    refine .plain (fun h => absurd h.1 (by decide)) ?_
    iterate 5 refine .plain (not_beginsEscape_of_ne (by decide) _ _) ?_
    refine .unpaired (by decide) hhigh (by decide) ?_ ?_
    · intro c low lowSpelling rest _ hlow heq
      obtain ⟨tail, rfl⟩ := hlow.exists_eq_cons
      cases heq
    · exact .plain (not_beginsEscape_of_ne (by decide) _ _) (.nil _)
  have hnone : ¬ ['\x5c', 'u'] <:+: "\\\\-".toList := by decide
  exact ⟨htranslates, (unescape_eq_iff_translates _ _).1.mpr htranslates, hnone,
    (unescape_eq_iff_translates _ "").2.2 hnone⟩

end ClassBatch.Source
