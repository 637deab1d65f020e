import ClassBatch.Text.Utf8
import Mathlib.Data.List.Basic

/-! Texts read back from their bytes. A character is decoded from just the bytes that it is encoded
in, so a text is, without a fault. -/

namespace ClassBatch.Text

variable {c : Char} {b lo hi : UInt8} {rest : Bytes} {n value count : Nat}

lemma encode_append (s t : String) : encode (s ++ t) = encode s ++ encode t := by
  rw [encode, String.toList_append, List.flatMap_append]
  rfl

lemma leadByte?_two : ∀ n < 32, 2 ≤ n →
    leadByte? (UInt8.ofNat (n + 0xC0)) = some (1, 0x80, 0xBF) ∧
      leadValue (UInt8.ofNat (n + 0xC0)) 1 = n := by
  decide

lemma leadByte?_three : ∀ n < 16,
    leadByte? (UInt8.ofNat (n + 0xE0)) =
        some (2, if n = 0 then 0xA0 else 0x80, if n = 13 then 0x9F else 0xBF) ∧
      leadValue (UInt8.ofNat (n + 0xE0)) 2 = n := by
  decide

lemma leadByte?_four : ∀ n < 5,
    leadByte? (UInt8.ofNat (n + 0xF0)) =
        some (3, if n = 0 then 0x90 else 0x80, if n = 4 then 0x8F else 0xBF) ∧
      leadValue (UInt8.ofNat (n + 0xF0)) 3 = n := by
  decide

lemma readChar_of_lt (h : n < 0x80) (rest : Bytes) :
    readChar (UInt8.ofNat n) rest = (some (Char.ofNat n), rest) := by
  have hbyte : (UInt8.ofNat n).toNat = n := UInt8.toNat_ofNat_of_lt' (Nat.lt_trans h (by decide))
  have hlt : UInt8.ofNat n < 0x80 := by rwa [UInt8.lt_iff_toNat_lt, hbyte]
  rw [readChar, if_pos hlt, hbyte]

lemma readChar_of_le (h : 0x80 ≤ b.toNat) (hlead : leadByte? b = some (count, lo, hi))
    (rest : Bytes) : readChar b rest =
      ((readTail (leadValue b count) lo hi count rest).1.map Char.ofNat,
        (readTail (leadValue b count) lo hi count rest).2) := by
  have hnot : ¬ b < 0x80 := by
    rw [UInt8.lt_iff_toNat_lt]
    exact Nat.not_lt.mpr h
  rw [readChar, if_neg hnot, hlead]

lemma readTail_byte (hn : n < 64) (hlo : lo.toNat ≤ n + 0x80) (hhi : n + 0x80 ≤ hi.toNat) :
    readTail value lo hi (count + 1) (UInt8.ofNat (n + 0x80) :: rest) =
      readTail (value * 64 + n) 0x80 0xBF count rest := by
  have hbyte : (UInt8.ofNat (n + 0x80)).toNat = n + 0x80 :=
    UInt8.toNat_ofNat_of_lt' (by rw [UInt8.size]; omega)
  have hin : (decide (lo ≤ UInt8.ofNat (n + 0x80)) && decide (UInt8.ofNat (n + 0x80) ≤ hi)) = true := by
    rw [Bool.and_eq_true, decide_eq_true_eq, decide_eq_true_eq, UInt8.le_iff_toNat_le,
      UInt8.le_iff_toNat_le, hbyte]
    exact ⟨hlo, hhi⟩
  rw [readTail, if_pos hin, hbyte, Nat.add_sub_cancel]

lemma readTail_byte' (hn : n < 64) :
    readTail value 0x80 0xBF (count + 1) (UInt8.ofNat (n + 0x80) :: rest) =
      readTail (value * 64 + n) 0x80 0xBF count rest :=
  readTail_byte hn (Nat.le_add_left _ _) (Nat.add_le_add_right (Nat.le_of_lt_succ hn) _)

lemma readChar_utf8EncodeChar (c : Char) (rest : Bytes) : ∃ b more,
    String.utf8EncodeChar c = b :: more ∧ readChar b (more ++ rest) = (some c, rest) := by
  have hvalid : c.toNat.isValidChar := c.valid
  unfold Nat.isValidChar at hvalid
  have hchar : Char.ofNat c.toNat = c := Char.ofNat_toNat c
  generalize hv : c.toNat = v at hvalid hchar
  change c.val.toNat = v at hv
  rw [String.utf8EncodeChar, hv]
  split_ifs with h₁ h₂ h₃
  · exact ⟨_, _, rfl, by rw [List.nil_append, readChar_of_lt (by omega), hchar]⟩
  · refine ⟨_, _, rfl, ?_⟩
    obtain ⟨hlead, hvalue⟩ := leadByte?_two (v / 64 % 32) (by omega) (by omega)
    rw [readChar_of_le ?_ hlead, hvalue, List.cons_append, readTail_byte' (by omega), readTail]
    · rw [Option.map_some, ← hchar]
      congr 3
      omega
    · simp
      omega
  · refine ⟨_, _, rfl, ?_⟩
    obtain ⟨hlead, hvalue⟩ := leadByte?_three (v / 4096 % 16) (by omega)
    rw [readChar_of_le ?_ hlead, hvalue, List.cons_append, readTail_byte (by omega) ?_ ?_,
      List.cons_append, readTail_byte' (by omega), readTail]
    · rw [Option.map_some, ← hchar]
      congr 3
      omega
    · split_ifs <;> simp
      omega
    · split_ifs <;> simp <;> omega
    · simp
      omega
  · refine ⟨_, _, rfl, ?_⟩
    obtain ⟨hlead, hvalue⟩ := leadByte?_four (v / 262144 % 8) (by omega)
    rw [readChar_of_le ?_ hlead, hvalue, List.cons_append, readTail_byte (by omega) ?_ ?_,
      List.cons_append, readTail_byte' (by omega), List.cons_append, readTail_byte' (by omega),
      readTail]
    · rw [Option.map_some, ← hchar]
      congr 3
      omega
    · split_ifs <;> simp
      omega
    · split_ifs <;> simp <;> omega
    · simp
      omega

lemma readChars_encode (seen : List (Option Char)) (s : List Char) (rest : Bytes) :
    readChars seen (s.flatMap String.utf8EncodeChar ++ rest) =
      readChars ((s.map some).reverse ++ seen) rest := by
  induction s generalizing seen with
  | nil => rfl
  | cons c s ih =>
    obtain ⟨b, more, hbytes, hread⟩ :=
      readChar_utf8EncodeChar c (s.flatMap String.utf8EncodeChar ++ rest)
    rw [List.flatMap_cons, hbytes, List.cons_append, List.cons_append, List.append_assoc, readChars,
      hread, ih, List.map_cons, List.reverse_cons, List.append_assoc, List.singleton_append]

lemma readChars_nil (seen : List (Option Char)) : readChars seen [] = seen := by
  rw [readChars]

theorem decodeLossy_encode (s : String) : decodeLossy (encode s) = s := by
  have hread := readChars_encode [] s.toList []
  rw [List.append_nil, List.append_nil, readChars_nil] at hread
  rw [decodeLossy, encode, hread, List.reverse_reverse, List.map_map]
  exact (congrArg String.ofList (List.map_id s.toList)).trans String.ofList_toList

lemma readChars_faults (seen : List (Option Char)) (n : Nat) (rest : Bytes) :
    readChars seen (List.replicate n 0xFF ++ rest) = readChars (List.replicate n none ++ seen) rest := by
  induction n generalizing seen with
  | zero => rfl
  | succ n ih =>
    have hfault : ∀ s, readChar 0xFF s = (none, s) := fun s => rfl
    rw [List.replicate_succ, List.cons_append, readChars, hfault, ih, List.replicate_succ',
      List.append_assoc, List.singleton_append]

lemma decodeLossy_faults (s t : String) (n : Nat) :
    decodeLossy (encode s ++ (List.replicate n 0xFF ++ encode t)) =
      String.ofList (s.toList ++ (List.replicate n '\ufffd' ++ t.toList)) := by
  have hread := readChars_encode (List.replicate n none ++ ((s.toList.map some).reverse ++ []))
    t.toList []
  rw [List.append_nil, List.append_nil, readChars_nil] at hread
  rw [decodeLossy, encode, readChars_encode, readChars_faults, List.append_nil, encode, hread]
  simp only [List.reverse_append, List.reverse_reverse, List.reverse_replicate, List.map_append,
    List.map_replicate, Option.getD_none, List.map_map, List.append_assoc]
  congr
  · exact List.map_id s.toList
  · exact List.map_id t.toList

end ClassBatch.Text
