import ClassBatch.Archive.Writer
import Mathlib.Algebra.Order.Ring.Nat
import Mathlib.Data.List.Basic

/-! Numbers of a fixed width. What is read is what was written, as far as the width holds it, and the
bytes behind it are left. -/

namespace ClassBatch.Archive

open Text (Bytes)

variable {value width : Nat} {fields : List (Nat × Nat)} {rest : Bytes}

@[simp]
lemma writeNumber_length (width value : Nat) : (writeNumber width value).length = width := by
  induction width generalizing value with
  | zero => rfl
  | succ width ih => rw [writeNumber, List.length_cons, ih]

lemma readNumber?_writeNumber (width value : Nat) (rest : Bytes) :
    readNumber? width (writeNumber width value ++ rest) = some (value % 256 ^ width, rest) := by
  induction width generalizing value with
  | zero => simp [writeNumber, readNumber?, Nat.mod_one]
  | succ width ih =>
    have hbyte : (UInt8.ofNat value).toNat = value % 256 := by simp
    rw [writeNumber, List.cons_append, readNumber?, ih, Option.map_some, hbyte, Nat.pow_succ',
      Nat.mod_mul]

@[simp]
lemma writeFields_nil : writeFields [] = [] :=
  rfl

lemma writeFields_cons (width value : Nat) (fields : List (Nat × Nat)) :
    writeFields ((width, value) :: fields) = writeNumber width value ++ writeFields fields :=
  rfl

@[simp]
lemma writeFields_length (fields : List (Nat × Nat)) :
    (writeFields fields).length = (fields.map Prod.fst).sum := by
  induction fields with
  | nil => rfl
  | cons field fields ih => rw [writeFields_cons, List.length_append, writeNumber_length, ih]; rfl

lemma readFields_writeFields (fields : List (Nat × Nat)) (rest : Bytes) :
    readFields (fields.map Prod.fst) (writeFields fields ++ rest) =
      .ok (fields.map fun (width, value) => value % 256 ^ width, rest) := by
  induction fields with
  | nil => rfl
  | cons field fields ih =>
    obtain ⟨width, value⟩ := field
    rw [List.map_cons, readFields, writeFields_cons, List.append_assoc, readNumber?_writeNumber]
    dsimp only
    rw [ih]
    rfl

lemma readBytes_append {n : Nat} (s rest : Bytes) (h : s.length = n) :
    readBytes n (s ++ rest) = .ok (s, rest) := by
  subst h
  rw [readBytes, if_pos (by simp), List.take_left, List.drop_left]

lemma readNumber?_append {n : Nat} {s : Bytes} (h : n ≤ s.length) :
    ∃ value, ∀ rest, readNumber? n (s ++ rest) = some (value, s.drop n ++ rest) := by
  induction n generalizing s with
  | zero => exact ⟨0, fun rest => rfl⟩
  | succ n ih =>
    cases s with
    | nil => exact absurd h (Nat.not_succ_le_zero n)
    | cons b s =>
      obtain ⟨value, hvalue⟩ := ih (Nat.le_of_succ_le_succ h)
      exact ⟨b.toNat + 256 * value, fun rest => by
        rw [List.cons_append, readNumber?, hvalue, Option.map_some, List.drop_succ_cons]⟩

lemma le_of_readNumber? {lower : Bytes} {b : UInt8} {tail : Bytes}
    (h : readNumber? (lower.length + 1) (lower ++ b :: tail) = some (value, rest)) :
    b.toNat * 256 ^ lower.length ≤ value := by
  induction lower generalizing value with
  | nil =>
    simp only [List.length_nil, List.nil_append, readNumber?, Option.map_some, Option.some.injEq,
      Prod.mk.injEq] at h
    simp [← h.1]
  | cons c lower ih =>
    rw [List.length_cons, List.cons_append, readNumber?] at h
    obtain ⟨⟨inner, left⟩, hinner, heq⟩ := Option.map_eq_some_iff.mp h
    have hle := ih (hinner.trans (by rw [(Prod.mk.inj heq).2]))
    obtain ⟨rfl, -⟩ := Prod.mk.inj heq
    rw [List.length_cons, Nat.pow_succ, ← Nat.mul_assoc]
    omega

end ClassBatch.Archive
