import ClassBatch.Source.Escape
import Mathlib.Data.List.Basic
import Mathlib.Tactic.IntervalCases

/-! How an escape is written and read, and what the decoder makes of one. -/

namespace ClassBatch.Source

variable {c : Char} {n unit high low : Nat} {s spelling lowSpelling : List Char} {e : Escape}

section Grammar

def IsHexDigit (c : Char) (n : Nat) : Prop :=
  n < 16 ∧ (c = n.digitChar ∨ c = n.digitChar.toUpper)

instance (c : Char) (n : Nat) : Decidable (IsHexDigit c n) :=
  inferInstanceAs (Decidable (n < 16 ∧ (c = n.digitChar ∨ c = n.digitChar.toUpper)))

inductive Spells : Nat → List Char → Prop
  | intro (marks : Nat) {a b c d : Char} {i j k l : Nat} (first : IsHexDigit a i)
      (second : IsHexDigit b j) (third : IsHexDigit c k) (fourth : IsHexDigit d l) :
      Spells (((i * 16 + j) * 16 + k) * 16 + l)
        ('\x5c' :: (List.replicate (marks + 1) 'u' ++ [a, b, c, d]))

structure IsSurrogatePair (c : Char) (high low : Nat) : Prop where
  supplementary : 0x10000 ≤ c.toNat
  high_eq : high = 0xD800 + (c.toNat - 0x10000) / 0x400
  low_eq : low = 0xDC00 + (c.toNat - 0x10000) % 0x400

end Grammar

lemma hexDigit?_eq_some_iff : hexDigit? c = some n ↔ IsHexDigit c n := by
  constructor
  · intro h
    have hcode : c = Char.ofNat c.toNat := (Char.ofNat_toNat c).symm
    have hrange : 48 ≤ c.toNat ∧ c.toNat ≤ 57 ∨ 97 ≤ c.toNat ∧ c.toNat ≤ 102 ∨
        65 ≤ c.toNat ∧ c.toNat ≤ 70 := by
      unfold hexDigit? at h
      split_ifs at h with hdigit hlower hupper
      · exact Or.inl hdigit
      · exact Or.inr (Or.inl hlower)
      · exact Or.inr (Or.inr hupper)
    generalize c.toNat = code at hcode hrange
    subst hcode
    rcases hrange with ⟨hl, hu⟩ | ⟨hl, hu⟩ | ⟨hl, hu⟩
    all_goals
      interval_cases code
      all_goals
        cases h
        decide
  · rintro ⟨hn, rfl | rfl⟩
    all_goals
      interval_cases n
      all_goals decide

lemma IsHexDigit.ne (h : IsHexDigit c n) : c ≠ 'u' ∧ c ≠ '\x5c' := by
  have hread := hexDigit?_eq_some_iff.mpr h
  constructor
  · rintro rfl
    cases hread
  · rintro rfl
    cases hread

lemma hexUnit?_eq_some_iff {a b c d : Char} : hexUnit? a b c d = some unit ↔
    ∃ i j k l, IsHexDigit a i ∧ IsHexDigit b j ∧ IsHexDigit c k ∧ IsHexDigit d l ∧
      ((i * 16 + j) * 16 + k) * 16 + l = unit := by
  simp only [hexUnit?, Option.bind_eq_bind, Option.bind_eq_some_iff, hexDigit?_eq_some_iff,
    Option.pure_def, Option.some.injEq]
  constructor
  · rintro ⟨i, hi, j, hj, k, hk, l, hl, h⟩
    exact ⟨i, j, k, l, hi, hj, hk, hl, h⟩
  · rintro ⟨i, j, k, l, hi, hj, hk, hl, h⟩
    exact ⟨i, hi, j, hj, k, hk, l, hl, h⟩

lemma splitMarks_of_ne (h : s.head? ≠ some 'u') : splitMarks s = ([], s) := by
  rw [splitMarks]
  rintro rest rfl
  exact h rfl

lemma splitMarks_replicate (marks : Nat) (h : s.head? ≠ some 'u') :
    splitMarks (List.replicate marks 'u' ++ s) = (List.replicate marks 'u', s) := by
  induction marks with
  | zero => exact splitMarks_of_ne h
  | succ marks ih => rw [List.replicate_succ, List.cons_append, splitMarks, ih]

lemma splitMarks_marks (s : List Char) : ∃ marks, (splitMarks s).1 = List.replicate marks 'u' := by
  fun_induction splitMarks s with
  | case1 rest us tail h ih =>
    obtain ⟨marks, hmarks⟩ := ih
    rw [h] at hmarks
    exact ⟨marks + 1, congrArg (List.cons 'u') hmarks⟩
  | case2 => exact ⟨0, rfl⟩

namespace Spells

lemma unit_lt (h : Spells unit spelling) : unit < 0x10000 := by
  cases h with
  | intro marks first second third fourth =>
    have := first.1
    have := second.1
    have := third.1
    have := fourth.1
    omega

lemma exists_eq_cons (h : Spells unit spelling) : ∃ rest, spelling = '\x5c' :: 'u' :: rest := by
  cases h with
  | intro marks => exact ⟨_, rfl⟩

lemma exists_eq_concat (h : Spells unit spelling) :
    ∃ start d, spelling = start ++ [d] ∧ d ≠ '\x5c' := by
  cases h with
  | @intro marks a b c d _ _ _ _ _ _ _ fourth =>
    refine ⟨'\x5c' :: (List.replicate (marks + 1) 'u' ++ [a, b, c]), d, ?_, fourth.ne.2⟩
    simp

lemma readEscape?_append (h : Spells unit spelling) (s : List Char) :
    readEscape? (spelling ++ s) = some ⟨spelling, unit, s⟩ := by
  cases h with
  | @intro marks a b c d i j k l first second third fourth =>
    have hmarks : splitMarks (List.replicate (marks + 1) 'u' ++ a :: b :: c :: d :: s) =
        (List.replicate (marks + 1) 'u', a :: b :: c :: d :: s) := by
      apply splitMarks_replicate
      simpa using first.ne.1
    have hunit := hexUnit?_eq_some_iff.mpr ⟨i, j, k, l, first, second, third, fourth, rfl⟩
    have hspelling : '\x5c' :: (List.replicate (marks + 1) 'u' ++ [a, b, c, d]) ++ s =
        '\x5c' :: (List.replicate (marks + 1) 'u' ++ a :: b :: c :: d :: s) := by
      simp
    rw [hspelling, readEscape?, hmarks]
    simp only [List.replicate_succ, hunit, Option.map_some]

end Spells

lemma readEscape?_eq_some_iff :
    readEscape? s = some e ↔ Spells e.unit e.spelling ∧ s = e.spelling ++ e.rest := by
  constructor
  · intro h
    refine ⟨?_, readEscape?_append h⟩
    unfold readEscape? at h
    split at h
    · rename_i s
      obtain ⟨marks, hmarks⟩ := splitMarks_marks s
      split at h
      · cases h
      · rename_i us a b c d rest hne hs
        obtain ⟨unit, hunit, rfl⟩ := Option.map_eq_some_iff.mp h
        obtain ⟨i, j, k, l, hi, hj, hk, hl, rfl⟩ := hexUnit?_eq_some_iff.mp hunit
        rw [hs] at hmarks
        subst hmarks
        cases marks with
        | zero => exact absurd rfl hne
        | succ marks => exact .intro marks hi hj hk hl
      · cases h
    · cases h
  · rintro ⟨hspells, rfl⟩
    exact hspells.readEscape?_append e.rest

lemma isHighSurrogate_iff : isHighSurrogate n = true ↔ 0xD800 ≤ n ∧ n < 0xDC00 := by
  rw [isHighSurrogate, Bool.and_eq_true, decide_eq_true_eq, decide_eq_true_eq]

lemma isLowSurrogate_iff : isLowSurrogate n = true ↔ 0xDC00 ≤ n ∧ n < 0xE000 := by
  rw [isLowSurrogate, Bool.and_eq_true, decide_eq_true_eq, decide_eq_true_eq]

lemma isValidChar_toNat (c : Char) : c.toNat.isValidChar :=
  c.valid

lemma not_isValidChar_of_surrogate (h : 0xD800 ≤ n ∧ n < 0xE000) : ¬ n.isValidChar := by
  unfold Nat.isValidChar
  omega

lemma toNat_ofNat (h : n.isValidChar) : (Char.ofNat n).toNat = n := by
  rw [Char.ofNat, dif_pos h]
  rfl

lemma isSurrogatePair_iff : IsSurrogatePair c high low ↔
    isHighSurrogate high = true ∧ isLowSurrogate low = true ∧
      Char.ofNat (joinSurrogates high low) = c := by
  rw [isHighSurrogate_iff, isLowSurrogate_iff]
  have hjoin : joinSurrogates high low = 0x10000 + (high - 0xD800) * 0x400 + (low - 0xDC00) := rfl
  constructor
  · rintro ⟨hsupplementary, hhigh, hlow⟩
    have hvalid := isValidChar_toNat c
    unfold Nat.isValidChar at hvalid
    have hcode : joinSurrogates high low = c.toNat := by omega
    rw [hcode, Char.ofNat_toNat]
    exact ⟨by omega, by omega, rfl⟩
  · rintro ⟨hhigh, hlow, hc⟩
    have hvalid : (joinSurrogates high low).isValidChar := by
      unfold Nat.isValidChar
      omega
    have hcode : c.toNat = joinSurrogates high low := by rw [← hc, toNat_ofNat hvalid]
    exact ⟨by omega, by omega, by omega⟩

lemma decodeEscapes_nil : decodeEscapes [] = [] := by
  rw [decodeEscapes]

lemma decodeEscapes_backslashes (s : List Char) :
    decodeEscapes ('\x5c' :: '\x5c' :: s) = '\x5c' :: '\x5c' :: decodeEscapes s := by
  rw [decodeEscapes]

lemma decodeEscapes_cons (hread : readEscape? (c :: s) = none)
    (hs : c = '\x5c' → s.head? ≠ some '\x5c') : decodeEscapes (c :: s) = c :: decodeEscapes s := by
  rw [decodeEscapes]
  · split
    · rfl
    · rename_i e he
      rw [hread] at he
      cases he
  · rintro rest hc rfl
    exact hs hc rfl

lemma decodeEscapes_cons_of_ne (h : c ≠ '\x5c') (s : List Char) :
    decodeEscapes (c :: s) = c :: decodeEscapes s := by
  refine decodeEscapes_cons ?_ fun hc => absurd hc h
  rw [readEscape?]
  rintro rest heq
  exact h (List.cons.inj heq).1

lemma decodeEscapes_spelling (h : Spells unit spelling) (s : List Char) :
    decodeEscapes (spelling ++ s) =
      if unit.isValidChar then Char.ofNat unit :: decodeEscapes s
      else match readEscape? s with
        | some e =>
          if isHighSurrogate unit && isLowSurrogate e.unit then
            Char.ofNat (joinSurrogates unit e.unit) :: decodeEscapes e.rest
          else spelling ++ decodeEscapes s
        | none => spelling ++ decodeEscapes s := by
  have hread := h.readEscape?_append s
  obtain ⟨rest, rfl⟩ := h.exists_eq_cons
  rw [List.cons_append, List.cons_append] at hread ⊢
  rw [decodeEscapes]
  · split
    · rename_i hnone
      rw [hread] at hnone
      cases hnone
    · rename_i e he
      rw [hread] at he
      cases he
      split_ifs with hvalid
      · rfl
      · split
        · rename_i e' hnext
          rw [hnext]
        · rename_i hnext
          rw [hnext]
  · rintro rest' - heq
    cases heq

lemma decodeEscapes_scalar (h : Spells c.toNat spelling) (s : List Char) :
    decodeEscapes (spelling ++ s) = c :: decodeEscapes s := by
  rw [decodeEscapes_spelling h, if_pos (isValidChar_toNat c), Char.ofNat_toNat]

lemma decodeEscapes_pair (hpair : IsSurrogatePair c high low) (hhigh : Spells high spelling)
    (hlow : Spells low lowSpelling) (s : List Char) :
    decodeEscapes (spelling ++ (lowSpelling ++ s)) = c :: decodeEscapes s := by
  obtain ⟨hishigh, hislow, hjoin⟩ := isSurrogatePair_iff.mp hpair
  have hrange := isHighSurrogate_iff.mp hishigh
  rw [decodeEscapes_spelling hhigh, if_neg (not_isValidChar_of_surrogate ⟨hrange.1, by omega⟩),
    hlow.readEscape?_append]
  simp only [hishigh, hislow, Bool.and_self, if_true, hjoin]

lemma decodeEscapes_unpaired (h : Spells unit spelling) (hunit : 0xD800 ≤ unit ∧ unit < 0xE000)
    (hs : ∀ c low lowSpelling rest, IsSurrogatePair c unit low → Spells low lowSpelling →
      s ≠ lowSpelling ++ rest) : decodeEscapes (spelling ++ s) = spelling ++ decodeEscapes s := by
  rw [decodeEscapes_spelling h, if_neg (not_isValidChar_of_surrogate hunit)]
  split
  · rename_i e he
    obtain ⟨hspells, hrest⟩ := readEscape?_eq_some_iff.mp he
    split_ifs with hsurrogates
    · obtain ⟨hhigh, hlow⟩ := Bool.and_eq_true_iff.mp hsurrogates
      exact absurd hrest (hs _ _ _ _ (isSurrogatePair_iff.mpr ⟨hhigh, hlow, rfl⟩) hspells)
    · rfl
  · rfl

end ClassBatch.Source
