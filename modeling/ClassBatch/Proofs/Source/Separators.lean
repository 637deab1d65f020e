import ClassBatch.Proofs.Source.Translation

/-! Decoding a text piece by piece. No escape reaches across a character that none can contain, so a
source can be decoded line by line. -/

namespace ClassBatch.Source

def IsSeparator (c : Char) : Prop :=
  c ≠ '\x5c' ∧ c ≠ 'u' ∧ c ∉ "0123456789ABCDEFabcdef".toList

instance (c : Char) : Decidable (IsSeparator c) :=
  inferInstanceAs (Decidable (c ≠ '\x5c' ∧ c ≠ 'u' ∧ c ∉ "0123456789ABCDEFabcdef".toList))

variable {before s t out rest spelling : List Char} {c : Char} {n unit : Nat}

lemma IsHexDigit.mem (h : IsHexDigit c n) : c ∈ "0123456789ABCDEFabcdef".toList := by
  obtain ⟨hn, rfl | rfl⟩ := h
  all_goals
    interval_cases n
    all_goals decide

lemma IsSeparator.notMem (hc : IsSeparator c) (h : Spells unit spelling) : c ∉ spelling := by
  obtain ⟨hbackslash, hmark, hdigit⟩ := hc
  have hne : ∀ {d : Char} {n : Nat}, IsHexDigit d n → c ≠ d := by
    rintro d n hd rfl
    exact hdigit hd.mem
  cases h with
  | intro marks first second third fourth =>
    simp [hbackslash, hmark, hne first, hne second, hne third, hne fourth]

lemma IsSeparator.exists_eq_append (hc : IsSeparator c) (h : Spells unit spelling)
    (heq : s ++ c :: t = spelling ++ rest) : ∃ tail, s = spelling ++ tail := by
  rcases List.append_eq_append_iff.mp heq with ⟨tail, hspelling, hrest⟩ | ⟨tail, hs, -⟩
  · cases tail with
    | nil => exact ⟨[], by simpa using hspelling.symm⟩
    | cons d tail =>
      obtain ⟨rfl, -⟩ := List.cons.inj hrest
      refine absurd ?_ (hc.notMem h)
      simp [hspelling]
  · exact ⟨tail, hs⟩

lemma not_beginsEscape_append (hc : IsSeparator c) (h : ¬ BeginsEscape before s) :
    ¬ BeginsEscape before (s ++ c :: t) := by
  rintro ⟨hopen, unit, spelling, rest, hspells, heq⟩
  obtain ⟨tail, hs⟩ := hc.exists_eq_append hspells heq
  exact h ⟨hopen, unit, spelling, tail, hspells, hs⟩

lemma translates_separator (hc : IsSeparator c) (before t : List Char) :
    Translates before (c :: t) (c :: decodeEscapes t) := by
  refine .plain (not_beginsEscape_of_ne hc.1 before t) ?_
  rw [translates_iff, decodeBehind_of_isOpen (isOpen_concat_of_ne hc.1 before)]

lemma Translates.append_separator (hc : IsSeparator c) (h : Translates before s out)
    (t : List Char) : Translates before (s ++ c :: t) (out ++ c :: decodeEscapes t) := by
  induction h with
  | nil before => exact translates_separator hc before t
  | scalar opened spells _ ih =>
    rw [List.append_assoc]
    exact .scalar opened spells ih
  | pair opened stand spells spellsLow _ ih =>
    rw [List.append_assoc, List.append_assoc]
    exact .pair opened stand spells spellsLow ih
  | unpaired opened spells surrogate alone _ ih =>
    rw [List.append_assoc, List.append_assoc]
    refine .unpaired opened spells surrogate ?_ ih
    intro c' low lowSpelling rest stand spellsLow heq
    obtain ⟨tail, hs⟩ := hc.exists_eq_append spellsLow heq
    exact alone c' low lowSpelling tail stand spellsLow hs
  | plain other _ ih => exact .plain (not_beginsEscape_append hc other) ih

lemma unescapeChars_append_separator (hc : IsSeparator c) (s t : List Char) :
    unescapeChars (s ++ c :: t) = unescapeChars s ++ c :: unescapeChars t := by
  have htranslates : Translates [] s (decodeEscapes s) := translates_nil_iff.mpr rfl
  rw [unescapeChars_eq, unescapeChars_eq, unescapeChars_eq,
    ← translates_nil_iff.mp (htranslates.append_separator hc t)]

lemma unescape_append_separator (hc : IsSeparator c) (a b : String) :
    unescape (a ++ String.singleton c ++ b) = unescape a ++ String.singleton c ++ unescape b := by
  rw [← String.toList_inj]
  simp [unescape, unescapeChars_append_separator hc]

/-- A text is decoded by decoding what stands before a separator and what stands behind it. However
many separators it is cut at, the pieces are decoded one by one. -/
theorem unescape_piecewise (hc : IsSeparator c) :
    (∀ a b : String, unescape (a ++ String.singleton c ++ b) =
      unescape a ++ String.singleton c ++ unescape b) ∧
    ∀ pieces : List String, unescape ((String.singleton c).intercalate pieces) =
      (String.singleton c).intercalate (pieces.map unescape) := by
  refine ⟨unescape_append_separator hc, fun pieces => ?_⟩
  induction pieces with
  | nil => rfl
  | cons piece pieces ih =>
    cases pieces with
    | nil => simp
    | cons next pieces =>
      let mark := String.singleton c
      calc unescape (mark.intercalate (piece :: next :: pieces))
          = unescape (piece ++ mark ++ mark.intercalate (next :: pieces)) := by
            rw [String.intercalate_cons_cons]
        _ = unescape piece ++ mark ++ mark.intercalate ((next :: pieces).map unescape) := by
            rw [unescape_append_separator hc, ih]
        _ = mark.intercalate ((piece :: next :: pieces).map unescape) :=
            String.intercalate_cons_cons.symm

theorem unescape_piecewise_of_lines :
    IsSeparator '\n' ∧
    unescape "\\u0041\\uD83D\n\\uDE00\\u00\n41\\\n\\u0042" = "A\\uD83D\n\\uDE00\\u00\n41\\\nB" := by
  have hc : IsSeparator '\n' := by decide
  have hlines := (unescape_piecewise hc).2 ["\\u0041\\uD83D", "\\uDE00\\u00", "41\\", "\\u0042"]
  refine ⟨hc, hlines.trans ?_⟩
  decide +kernel

end ClassBatch.Source
