import ClassBatch.Proofs.Archive.Fields

/-! Data in stored blocks are inflated to themselves. A block begins with a byte of which three bits
count, so what is read next stands at a whole byte. -/

namespace ClassBatch.Archive.Inflate

open Text (Bytes)

variable {b : UInt8} {s data : Bytes} {bits rest : Bits} {out : Array UInt8} {n m : Nat}

def lowBits (n value : Nat) : Bits :=
  (List.range n).map value.testBit

lemma lowBits_succ (n value : Nat) :
    lowBits (n + 1) value = value.testBit 0 :: lowBits n (value / 2) := by
  rw [lowBits, lowBits, List.range_succ_eq_map, List.map_cons, List.map_map]
  congr 1
  exact List.map_congr_left fun i _ => Nat.testBit_succ value i

lemma toNat_testBit_zero (value : Nat) : (value.testBit 0).toNat = value % 2 := by
  rw [Nat.testBit_zero]
  rcases Nat.mod_two_eq_zero_or_one value with h | h <;> rw [h] <;> rfl

lemma readBits_lowBits (n value : Nat) (rest : Bits) :
    readBits n (lowBits n value ++ rest) = .ok (value % 2 ^ n, rest) := by
  induction n generalizing value with
  | zero => simp [lowBits, readBits, Nat.mod_one]
  | succ n ih =>
    rw [lowBits_succ, List.cons_append, readBits, ih, toNat_testBit_zero, Nat.pow_succ', Nat.mod_mul]
    rfl

lemma foldr_lowBits (n value : Nat) :
    (lowBits n value).foldr (fun b n => b.toNat + 2 * n) 0 = value % 2 ^ n := by
  induction n generalizing value with
  | zero => simp [lowBits, Nat.mod_one]
  | succ n ih =>
    rw [lowBits_succ, List.foldr_cons, ih, toNat_testBit_zero, Nat.pow_succ', Nat.mod_mul]

lemma byteBits_eq (b : UInt8) : byteBits b = lowBits 8 b.toNat :=
  rfl

@[simp]
lemma byteBits_length (b : UInt8) : (byteBits b).length = 8 :=
  rfl

lemma bitsByte_byteBits (b : UInt8) : bitsByte (byteBits b) = b := by
  rw [bitsByte, byteBits_eq, foldr_lowBits, Nat.mod_eq_of_lt b.toNat_lt, UInt8.ofNat_toNat]

@[simp]
lemma bitsOf_nil : bitsOf [] = [] :=
  rfl

lemma bitsOf_cons (b : UInt8) (s : Bytes) : bitsOf (b :: s) = byteBits b ++ bitsOf s :=
  rfl

lemma bitsOf_append (s t : Bytes) : bitsOf (s ++ t) = bitsOf s ++ bitsOf t :=
  List.flatMap_append

@[simp]
lemma bitsOf_length (s : Bytes) : (bitsOf s).length = 8 * s.length := by
  induction s with
  | nil => rfl
  | cons b s ih =>
    rw [bitsOf_cons, List.length_append, byteBits_length, ih, List.length_cons]
    omega

lemma lowBits_add (n m value : Nat) :
    lowBits (n + m) value = lowBits n value ++ lowBits m (value / 2 ^ n) := by
  induction n generalizing value with
  | zero => simp [lowBits]
  | succ n ih =>
    rw [Nat.add_right_comm, lowBits_succ, lowBits_succ, ih, List.cons_append, Nat.div_div_eq_div_mul,
      Nat.pow_succ']

lemma lowBits_mod (n value : Nat) : lowBits n (value % 2 ^ n) = lowBits n value := by
  refine List.map_congr_left fun i hi => ?_
  rw [Nat.testBit_mod_two_pow, decide_eq_true (List.mem_range.mp hi), Bool.true_and]

lemma bitsOf_writeNumber (n value : Nat) :
    bitsOf (writeNumber n value) = lowBits (8 * n) value := by
  induction n generalizing value with
  | zero => rfl
  | succ n ih =>
    have hbyte : (UInt8.ofNat value).toNat = value % 2 ^ 8 := by simp
    have hrest : value / 256 = value / 2 ^ 8 := rfl
    rw [writeNumber, bitsOf_cons, ih, byteBits_eq, hbyte, lowBits_mod, Nat.mul_succ, Nat.add_comm,
      lowBits_add, hrest]

lemma copyStored_bitsOf (data : Bytes) (out : Array UInt8) (rest : Bits) :
    copyStored data.length out (bitsOf data ++ rest) = ⟨out ++ data.toArray, rest, none⟩ := by
  induction data generalizing out with
  | nil => simp [copyStored]
  | cons b data ih =>
    rw [List.length_cons, copyStored, bitsOf_cons, List.append_assoc,
      List.take_left' (byteBits_length b), List.drop_left' (byteBits_length b), byteBits_length,
      if_neg (Nat.lt_irrefl 8), bitsByte_byteBits, ih]
    simp

lemma readStored_writeFields (hdata : data.length ≤ maxBlock) (hbits : bits.length < 8)
    (s : Bytes) : readStored out (bits ++ bitsOf
      (writeFields [(2, data.length), (2, maxBlock - data.length)] ++ data ++ s)) =
        ⟨out ++ data.toArray, bitsOf s, none⟩ := by
  have hskip : (bits ++ bitsOf
      (writeFields [(2, data.length), (2, maxBlock - data.length)] ++ data ++ s)).length % 8 =
        bits.length := by
    rw [List.length_append, bitsOf_length]
    omega
  have hmax : maxBlock = 65535 := rfl
  have hlength : data.length % 2 ^ 16 = data.length := Nat.mod_eq_of_lt (by omega)
  have hinverse : (maxBlock - data.length) % 2 ^ 16 = maxBlock - data.length :=
    Nat.mod_eq_of_lt (by omega)
  have hsum : data.length + (maxBlock - data.length) = 0xFFFF := by omega
  rw [readStored, hskip, List.drop_left, writeFields_cons, writeFields_cons, writeFields_nil,
    List.append_nil, bitsOf_append, bitsOf_append, bitsOf_append, bitsOf_writeNumber,
    bitsOf_writeNumber, List.append_assoc, List.append_assoc, readBits_lowBits, hlength]
  simp only [bind, Except.bind]
  rw [readBits_lowBits, hinverse]
  simp only [hsum, if_true]
  exact copyStored_bitsOf data out _

lemma bitsOf_storedBlock (last : Bool) (data : Bytes) : bitsOf (storedBlock last data) =
    lowBits 3 last.toNat ++ (lowBits 5 (last.toNat / 8) ++ bitsOf
      (writeFields [(2, data.length), (2, maxBlock - data.length)] ++ data)) := by
  have hfirst : bitsOf (writeNumber 1 last.toNat) =
      lowBits 3 last.toNat ++ lowBits 5 (last.toNat / 8) := by
    rw [bitsOf_writeNumber]
    exact lowBits_add 3 5 last.toNat
  rw [storedBlock, writeFields_cons, List.append_assoc, bitsOf_append, hfirst, List.append_assoc]

lemma readBlocks_storedBlock (hdata : data.length ≤ maxBlock) (last : Bool) (out : Array UInt8)
    (s : Bytes) : readBlocks (n + 1) out (bitsOf (storedBlock last data ++ s)) =
      if last then ⟨out ++ data.toArray, bitsOf s, none⟩
      else readBlocks n (out ++ data.toArray) (bitsOf s) := by
  have hheader : last.toNat % 2 ^ 3 = last.toNat := by cases last <;> rfl
  have hkind : last.toNat / 2 = 0 := by cases last <;> rfl
  have hlow : (lowBits 5 (last.toNat / 8)).length < 8 := by decide +revert
  rw [bitsOf_append, bitsOf_storedBlock, List.append_assoc, List.append_assoc, ← bitsOf_append,
    readBlocks, readBits_lowBits, hheader]
  dsimp only
  rw [hkind, readBlock, readStored_writeFields hdata hlow]
  cases last <;> rfl

lemma readBlocks_deflateStored (data : Bytes) (out : Array UInt8) (s : Bytes)
    (hn : data.length ≤ n) : readBlocks (n + 1) out (bitsOf (deflateStored data ++ s)) =
      ⟨out ++ data.toArray, bitsOf s, none⟩ := by
  induction n using Nat.strongRecOn generalizing data out with
  | _ n ih =>
    rw [deflateStored]
    split
    · rename_i hdata
      rw [readBlocks_storedBlock hdata true, if_pos rfl]
    · rename_i hdata
      have hmax : maxBlock = 65535 := rfl
      obtain ⟨n, rfl⟩ : ∃ m, n = m + 1 := Nat.exists_eq_succ_of_ne_zero (by omega)
      have hfirst : (data.take maxBlock).length ≤ maxBlock := List.length_take_le _ _
      have hrest : (data.drop maxBlock).length ≤ n := by
        rw [List.length_drop]
        omega
      rw [List.append_assoc, readBlocks_storedBlock hfirst false, if_neg Bool.false_ne_true,
        ih n (Nat.lt_succ_self n) _ _ hrest]
      simp [List.append_toArray, Array.append_assoc]

lemma length_le_deflateStored (data : Bytes) : data.length ≤ (deflateStored data).length := by
  induction data using deflateStored.induct with
  | case1 data hdata =>
    rw [deflateStored, if_pos hdata, storedBlock, List.length_append]
    omega
  | case2 data hdata ih =>
    rw [deflateStored, if_neg hdata, storedBlock, List.length_append, List.length_append]
    rw [List.length_drop] at ih
    rw [List.length_take]
    omega

lemma deflateStored_nil_length : (deflateStored []).length = 5 := by
  rw [deflateStored, if_pos (by decide)]
  rfl

theorem inflate?_deflateStored (data : Bytes) : inflate? (deflateStored data) = some data := by
  have hfuel : data.length ≤ (bitsOf (deflateStored data)).length := by
    rw [bitsOf_length]
    exact Nat.le_trans (length_le_deflateStored data) (Nat.le_mul_of_pos_left _ (by decide))
  have hblocks := readBlocks_deflateStored data #[] [] hfuel
  rw [List.append_nil] at hblocks
  simp only [inflate?, hblocks]
  simp

end ClassBatch.Archive.Inflate
