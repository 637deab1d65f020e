import ClassBatch.Proofs.Source.Translation

/-! However a text is escaped, decoding gives it back. -/

namespace ClassBatch.Source

/-- A text and one of the ways to write it down. A character stands for itself, unless it is a backslash,
or in one of the spellings of its unit or of its two surrogates. -/
inductive Escaped : List Char → List Char → Prop
  | nil : Escaped [] []
  | verbatim {s written : List Char} {c : Char} (other : c ≠ '\x5c') (rest : Escaped s written) :
      Escaped (c :: s) (c :: written)
  | basic {s written spelling : List Char} {c : Char} (spells : Spells c.toNat spelling)
      (rest : Escaped s written) : Escaped (c :: s) (spelling ++ written)
  | supplementary {s written spelling lowSpelling : List Char} {c : Char} {high low : Nat}
      (stand : IsSurrogatePair c high low) (spells : Spells high spelling)
      (spellsLow : Spells low lowSpelling) (rest : Escaped s written) :
      Escaped (c :: s) (spelling ++ (lowSpelling ++ written))

lemma Escaped.translates {s written before : List Char} (h : Escaped s written)
    (hopen : IsOpen before) : Translates before written s := by
  induction h generalizing before with
  | nil => exact .nil before
  | verbatim other _ ih =>
    exact .plain (not_beginsEscape_of_ne other _ _) (ih (isOpen_concat_of_ne other before))
  | basic spells _ ih => exact .scalar hopen spells (ih (spells.isOpen_append before))
  | supplementary stand spells spellsLow _ ih =>
    refine .pair hopen stand spells spellsLow (ih ?_)
    rw [← List.append_assoc]
    exact spellsLow.isOpen_append _

theorem unescape_of_escaped {text written : String} (h : Escaped text.toList written.toList) :
    unescape written = text := by
  have hdecode : text.toList = decodeEscapes written.toList :=
    translates_nil_iff.mp (h.translates isOpen_nil)
  rw [unescape, unescapeChars_eq, ← hdecode, String.ofList_toList]

theorem unescape_of_escaped_mixed :
    Escaped "\\u0041😀Ab".toList "\\uu005Cu0041\\ud83D\\uuDE00\\u0041b".toList ∧
      unescape "\\uu005Cu0041\\ud83D\\uuDE00\\u0041b" = "\\u0041😀Ab" := by
  have hbackslash : Spells 0x5C "\\uu005C".toList :=
    .intro 1 (i := 0) (j := 0) (k := 5) (l := 12) (by decide) (by decide) (by decide) (by decide)
  have hhigh : Spells 0xD83D "\\ud83D".toList :=
    .intro 0 (i := 13) (j := 8) (k := 3) (l := 13) (by decide) (by decide) (by decide) (by decide)
  have hlow : Spells 0xDE00 "\\uuDE00".toList :=
    .intro 1 (i := 13) (j := 14) (k := 0) (l := 0) (by decide) (by decide) (by decide) (by decide)
  have hletter : Spells 0x41 "\\u0041".toList :=
    .intro 0 (i := 0) (j := 0) (k := 4) (l := 1) (by decide) (by decide) (by decide) (by decide)
  have h : Escaped "\\u0041😀Ab".toList "\\uu005Cu0041\\ud83D\\uuDE00\\u0041b".toList := by
    refine .basic (c := '\x5c') hbackslash ?_
    refine .verbatim (by decide) (.verbatim (by decide) (.verbatim (by decide) ?_))
    refine .verbatim (by decide) (.verbatim (by decide) ?_)
    refine .supplementary (c := '😀') ⟨by decide, by decide, by decide⟩ hhigh hlow ?_
    exact .basic (c := 'A') hletter (.verbatim (by decide) .nil)
  exact ⟨h, unescape_of_escaped h⟩

end ClassBatch.Source
