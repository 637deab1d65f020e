import ClassBatch.Proofs.Source.Translation
import ClassBatch.Source.Scan

/-! Decoding on bytes does what decoding on characters does. All bytes that it looks for stand for
themselves in UTF-8, so that every offset it counts lies between two characters. -/

namespace ClassBatch.Source.Scan

open Text (Bytes)

def utf8 (s : List Char) : Bytes :=
  s.flatMap String.utf8EncodeChar

variable {c : Char} {s t rest spelling : List Char} {b : UInt8} {bytes front out : Bytes}
  {unit high low len : Nat}

section Encoding

@[simp] lemma utf8_nil : utf8 [] = [] := rfl

@[simp] lemma utf8_cons (c : Char) (s : List Char) :
    utf8 (c :: s) = String.utf8EncodeChar c ++ utf8 s :=
  List.flatMap_cons

@[simp] lemma utf8_append (s t : List Char) : utf8 (s ++ t) = utf8 s ++ utf8 t :=
  List.flatMap_append

lemma encode_eq (text : String) : Text.encode text = utf8 text.toList := rfl

lemma isContinuation_iff : isContinuation b = true ↔ 0x80 ≤ b.toNat ∧ b.toNat < 0xC0 := by
  simp [isContinuation, UInt8.le_iff_toNat_le, UInt8.lt_iff_toNat_lt]

lemma toNat_byte {n : Nat} (h : n < 0x80) : (UInt8.ofNat n).toNat = n :=
  UInt8.toNat_ofNat_of_lt' (Nat.lt_trans h (by decide))

lemma utf8EncodeChar_of_lt (h : c.toNat < 0x80) :
    String.utf8EncodeChar c = [UInt8.ofNat c.toNat] := by
  have hle : c.val.toNat ≤ 0x7F := Nat.le_of_lt_succ h
  rw [String.utf8EncodeChar, if_pos hle]
  rfl

lemma utf8EncodeChar_of_le (h : 0x80 ≤ c.toNat) : ∃ first more,
    String.utf8EncodeChar c = first :: more ∧ 0xC0 ≤ first.toNat ∧
      ∀ b ∈ more, isContinuation b = true := by
  have hvalid := isValidChar_toNat c
  unfold Nat.isValidChar at hvalid
  have hnot : ¬ c.val.toNat ≤ 0x7F := Nat.not_le.mpr h
  rw [String.utf8EncodeChar, if_neg hnot]
  simp only [isContinuation_iff]
  split_ifs
  all_goals
    refine ⟨_, _, rfl, ?_, ?_⟩
    · simp
      omega
    · simp
      omega

lemma utf8_of_ascii (h : ∀ c ∈ s, c.toNat < 0x80) :
    utf8 s = s.map fun c => UInt8.ofNat c.toNat := by
  induction s with
  | nil => rfl
  | cons c s ih =>
    obtain ⟨hc, hs⟩ := List.forall_mem_cons.mp h
    rw [utf8_cons, utf8EncodeChar_of_lt hc, ih hs]
    rfl

lemma exists_eq_cons_of_utf8 (hb : b.toNat < 0x80) (h : utf8 s = b :: bytes) :
    ∃ rest, s = Char.ofNat b.toNat :: rest ∧ bytes = utf8 rest := by
  cases s with
  | nil => cases h
  | cons c s =>
    rw [utf8_cons] at h
    rcases Nat.lt_or_ge c.toNat 0x80 with hc | hc
    · rw [utf8EncodeChar_of_lt hc] at h
      obtain ⟨rfl, rfl⟩ := List.cons.inj h
      exact ⟨s, by rw [toNat_byte hc, Char.ofNat_toNat], rfl⟩
    · obtain ⟨first, more, hbytes, hfirst, -⟩ := utf8EncodeChar_of_le hc
      rw [hbytes] at h
      obtain ⟨rfl, -⟩ := List.cons.inj h
      omega

lemma exists_eq_backslash_of_utf8 (h : utf8 s = 0x5C :: bytes) :
    ∃ rest, s = '\x5c' :: rest ∧ bytes = utf8 rest :=
  exists_eq_cons_of_utf8 (by decide) h

lemma exists_eq_append_of_utf8 (hfront : ∀ b ∈ front, b.toNat < 0x80)
    (h : utf8 s = front ++ bytes) :
    ∃ rest, s = front.map (fun b => Char.ofNat b.toNat) ++ rest ∧ bytes = utf8 rest := by
  induction front generalizing s with
  | nil => exact ⟨s, rfl, h.symm⟩
  | cons b front ih =>
    obtain ⟨hb, hfront⟩ := List.forall_mem_cons.mp hfront
    obtain ⟨next, rfl, hnext⟩ := exists_eq_cons_of_utf8 hb h
    obtain ⟨rest, rfl, hrest⟩ := ih hfront hnext.symm
    exact ⟨rest, rfl, hrest⟩

lemma backslash_not_mem_utf8 (h : '\x5c' ∉ s) : 0x5C ∉ utf8 s := by
  induction s with
  | nil => exact List.not_mem_nil
  | cons c s ih =>
    rw [List.mem_cons, not_or] at h
    rw [utf8_cons, List.mem_append, not_or]
    refine ⟨?_, ih h.2⟩
    rcases Nat.lt_or_ge c.toNat 0x80 with hc | hc
    · rw [utf8EncodeChar_of_lt hc, List.mem_singleton]
      intro he
      have hcode := congrArg UInt8.toNat he
      rw [toNat_byte hc] at hcode
      apply h.1
      rw [← Char.ofNat_toNat c, ← hcode]
      rfl
    · obtain ⟨first, more, hbytes, hfirst, hmore⟩ := utf8EncodeChar_of_le hc
      rw [hbytes, List.mem_cons, not_or]
      refine ⟨?_, fun hmem => absurd (hmore _ hmem) (by decide)⟩
      rintro rfl
      exact absurd hfirst (by decide)

end Encoding

section Cutting

lemma isBoundary_utf8 (s t : List Char) : isBoundary (utf8 (s ++ t)) (utf8 s).length = true := by
  rw [isBoundary, utf8_append, List.getElem?_append_right (Nat.le_refl _), Nat.sub_self]
  cases t with
  | nil => simp
  | cons c t =>
    obtain ⟨first, more, hbytes, hfirst⟩ : ∃ first more, String.utf8EncodeChar c = first :: more ∧
        isContinuation first = false := by
      rcases Nat.lt_or_ge c.toNat 0x80 with hc | hc
      · refine ⟨_, _, utf8EncodeChar_of_lt hc, ?_⟩
        rw [← Bool.not_eq_true, isContinuation_iff, toNat_byte hc]
        omega
      · obtain ⟨first, more, hbytes, hfirst, -⟩ := utf8EncodeChar_of_le hc
        refine ⟨first, more, hbytes, ?_⟩
        rw [← Bool.not_eq_true, isContinuation_iff]
        omega
    simp [hbytes, hfirst]

lemma slice?_utf8 (s t rest : List Char) :
    slice? (utf8 (s ++ (t ++ rest))) (utf8 s).length (utf8 (s ++ t)).length = some (utf8 t) := by
  have hle : (utf8 s).length ≤ (utf8 (s ++ t)).length := by simp
  have hstart := isBoundary_utf8 s (t ++ rest)
  have hstop := isBoundary_utf8 (s ++ t) rest
  rw [List.append_assoc] at hstop
  rw [slice?, if_pos ⟨hle, hstart, hstop⟩, ← List.append_assoc, utf8_append (s ++ t) rest,
    List.take_left, utf8_append, List.drop_left]

lemma slice_utf8 (s t : List Char) : slice (utf8 (s ++ t)) 0 (utf8 s).length = .ok (utf8 s) := by
  have h := slice?_utf8 [] s t
  rw [List.nil_append, List.nil_append, utf8_nil, List.length_nil] at h
  rw [slice, h]

lemma sliceFrom_utf8 (s t : List Char) :
    sliceFrom (utf8 (s ++ t)) (utf8 s).length = .ok (utf8 t) := by
  have h := slice?_utf8 s t []
  rw [List.append_nil] at h
  rw [sliceFrom, slice, h]

end Cutting

section Reading

lemma toNat_lt_of_isHexDigit {n : Nat} (h : IsHexDigit c n) : c.toNat < 0x80 := by
  obtain ⟨hn, rfl | rfl⟩ := h
  all_goals
    interval_cases n
    all_goals decide

lemma digit?_byte (h : c.toNat < 0x80) : digit? (UInt8.ofNat c.toNat) = hexDigit? c := by
  rw [digit?, toNat_byte h, Char.ofNat_toNat]

lemma toNat_lt_of_digit? {n : Nat} (h : digit? b = some n) : b.toNat < 0x80 := by
  have hchar := toNat_lt_of_isHexDigit (hexDigit?_eq_some_iff.mp h)
  have hb := b.toNat_lt
  have hvalid : b.toNat.isValidChar := Or.inl (by omega)
  rwa [toNat_ofNat hvalid] at hchar

lemma readUnit?_of_digits {w x y z : UInt8} {i j k l : Nat} (hw : digit? w = some i)
    (hx : digit? x = some j) (hy : digit? y = some k) (hz : digit? z = some l) :
    readUnit? [w, x, y, z] = some (((i * 16 + j) * 16 + k) * 16 + l) := by
  have hi := (hexDigit?_eq_some_iff.mp hw).1
  have hj := (hexDigit?_eq_some_iff.mp hx).1
  have hk := (hexDigit?_eq_some_iff.mp hy).1
  have hl := (hexDigit?_eq_some_iff.mp hz).1
  have h₁ : i < 0x10000 := by omega
  have h₂ : i * 16 + j < 0x10000 := by omega
  have h₃ : (i * 16 + j) * 16 + k < 0x10000 := by omega
  have h₄ : ((i * 16 + j) * 16 + k) * 16 + l < 0x10000 := by omega
  simp [readUnit?, hw, hx, hy, hz, h₁, h₂, h₃, h₄]

lemma toNat_lt_of_spells (h : Spells unit spelling) : ∀ c ∈ spelling, c.toNat < 0x80 := by
  cases h with
  | intro marks first second third fourth =>
    have hdigits := And.intro (toNat_lt_of_isHexDigit first) (And.intro
      (toNat_lt_of_isHexDigit second) (And.intro (toNat_lt_of_isHexDigit third)
        (toNat_lt_of_isHexDigit fourth)))
    have hmark : 'u'.toNat < 0x80 ∧ '\x5c'.toNat < 0x80 := by decide
    intro c hc
    simp only [List.mem_cons, List.mem_append, List.mem_replicate, List.not_mem_nil, or_false] at hc
    rcases hc with rfl | ⟨-, rfl⟩ | rfl | rfl | rfl | rfl
    · exact hmark.2
    · exact hmark.1
    · exact hdigits.1
    · exact hdigits.2.1
    · exact hdigits.2.2.1
    · exact hdigits.2.2.2

lemma length_utf8_of_spells (h : Spells unit spelling) :
    (utf8 spelling).length = spelling.length := by
  rw [utf8_of_ascii (toNat_lt_of_spells h), List.length_map]

lemma utf8_marks (marks : Nat) : utf8 (List.replicate marks 'u') = List.replicate marks 0x75 := by
  rw [utf8_of_ascii, List.map_replicate]
  · rfl
  · intro c hc
    rw [List.eq_of_mem_replicate hc]
    decide

lemma length_takeWhile_marks (marks : Nat) (h : (utf8 s).head? ≠ some 0x75) :
    ((utf8 (List.replicate marks 'u' ++ s)).takeWhile (· == 0x75)).length = marks := by
  have hrest : (utf8 s).takeWhile (· == 0x75) = [] := by
    cases hs : utf8 s with
    | nil => rfl
    | cons b bytes =>
      rw [hs] at h
      have hb : b ≠ 0x75 := by simpa using h
      rw [List.takeWhile_cons_of_neg (by simpa using hb)]
  rw [utf8_append, utf8_marks, List.takeWhile_append_of_pos, hrest, List.append_nil,
    List.length_replicate]
  intro b hb
  rw [List.eq_of_mem_replicate hb]
  rfl

lemma parseEscape?_spelling (h : Spells unit spelling) (s : List Char) :
    parseEscape? (utf8 (spelling ++ s)) = some (unit, (utf8 spelling).length) := by
  rw [length_utf8_of_spells h]
  cases h with
  | @intro marks w x y z i j k l first second third fourth =>
    have hw := toNat_lt_of_isHexDigit first
    have hx := toNat_lt_of_isHexDigit second
    have hy := toNat_lt_of_isHexDigit third
    have hz := toNat_lt_of_isHexDigit fourth
    have hbytes : utf8 [w, x, y, z] =
        [UInt8.ofNat w.toNat, UInt8.ofNat x.toNat, UInt8.ofNat y.toNat, UInt8.ofNat z.toNat] := by
      simp [utf8EncodeChar_of_lt, hw, hx, hy, hz]
    have hi : digit? (UInt8.ofNat w.toNat) = some i := by
      rw [digit?_byte hw, hexDigit?_eq_some_iff.mpr first]
    have hj : digit? (UInt8.ofNat x.toNat) = some j := by
      rw [digit?_byte hx, hexDigit?_eq_some_iff.mpr second]
    have hk : digit? (UInt8.ofNat y.toNat) = some k := by
      rw [digit?_byte hy, hexDigit?_eq_some_iff.mpr third]
    have hl : digit? (UInt8.ofNat z.toNat) = some l := by
      rw [digit?_byte hz, hexDigit?_eq_some_iff.mpr fourth]
    have hmarks := @length_takeWhile_marks ([w, x, y, z] ++ s) (marks + 1) (by
      intro hhead
      rw [utf8_append, hbytes] at hhead
      rw [Option.some.inj hhead] at hi
      cases hi)
    have hslice := slice?_utf8 (List.replicate (marks + 1) 'u') [w, x, y, z] s
    have hstart : (utf8 (List.replicate (marks + 1) 'u')).length = marks + 1 := by
      rw [utf8_marks, List.length_replicate]
    have hstop : (utf8 (List.replicate (marks + 1) 'u' ++ [w, x, y, z])).length =
        marks + 1 + 4 := by
      rw [utf8_append, List.length_append, hstart, hbytes]
      rfl
    rw [hstart, hstop, hbytes] at hslice
    have htext : utf8 ('\x5c' :: (List.replicate (marks + 1) 'u' ++ [w, x, y, z]) ++ s) =
        0x5C :: utf8 (List.replicate (marks + 1) 'u' ++ ([w, x, y, z] ++ s)) := by
      rw [List.cons_append, List.append_assoc]
      rfl
    rw [htext, parseEscape?]
    simp only [hmarks, hslice, Nat.succ_ne_zero, if_false, Option.bind_eq_bind, Option.bind_some,
      List.all_cons, List.all_nil, hi, hj, hk, hl, Option.isSome_some, Bool.and_self, Bool.not_true,
      Bool.false_eq_true, readUnit?_of_digits hi hj hk hl, Option.pure_def]
    simp
    omega

lemma exists_digits_of_slice? {marks : Nat} {digits : Bytes}
    (hslice : slice? (utf8 (List.replicate marks 'u' ++ s)) marks (marks + 4) = some digits)
    (hdigits : ∀ b ∈ digits, ∃ n, digit? b = some n) :
    ∃ w x y z rest, digits = [w, x, y, z] ∧
      s = [w, x, y, z].map (fun b => Char.ofNat b.toNat) ++ rest := by
  obtain ⟨-, hstop, hpart⟩ := slice?_eq_some hslice
  rw [utf8_append, utf8_marks] at hstop hpart
  rw [List.length_append, List.length_replicate] at hstop
  have htake : digits = (utf8 s).take 4 := by
    rw [hpart, List.drop_take, List.drop_left' (by simp)]
    congr 1
    omega
  have hlength : digits.length = 4 := by
    rw [htake, List.length_take]
    omega
  have hascii : ∀ b ∈ digits, b.toNat < 0x80 := by
    intro b hb
    obtain ⟨n, hn⟩ := hdigits b hb
    exact toNat_lt_of_digit? hn
  have hs : utf8 s = digits ++ (utf8 s).drop 4 := by rw [htake, List.take_append_drop]
  obtain ⟨rest, hrest, -⟩ := exists_eq_append_of_utf8 hascii hs
  match digits, hlength with
  | [w, x, y, z], _ => exact ⟨w, x, y, z, rest, rfl, hrest⟩

lemma exists_eq_marks_append (s : List Char) : ∃ rest,
    s = List.replicate ((utf8 s).takeWhile (· == 0x75)).length 'u' ++ rest := by
  have hmark : ∀ b ∈ (utf8 s).takeWhile (· == 0x75), b = 0x75 := by
    intro b hb
    simpa using List.mem_takeWhile_imp hb
  have hascii : ∀ b ∈ (utf8 s).takeWhile (· == 0x75), b.toNat < 0x80 := by
    intro b hb
    rw [hmark b hb]
    decide
  have hs : utf8 s = (utf8 s).takeWhile (· == 0x75) ++ (utf8 s).dropWhile (· == 0x75) :=
    List.takeWhile_append_dropWhile.symm
  obtain ⟨rest, hrest, -⟩ := exists_eq_append_of_utf8 hascii hs
  refine ⟨rest, ?_⟩
  rw [List.eq_replicate_of_mem hmark, List.map_replicate] at hrest
  exact hrest

lemma exists_spells_of_parseEscape? (h : parseEscape? (utf8 s) = some (unit, len)) :
    ∃ spelling rest, Spells unit spelling ∧ s = spelling ++ rest ∧
      len = (utf8 spelling).length := by
  unfold parseEscape? at h
  split at h
  · rename_i bytes hbytes
    obtain ⟨tail, rfl, rfl⟩ := exists_eq_backslash_of_utf8 hbytes
    obtain ⟨t, ht⟩ := exists_eq_marks_append tail
    dsimp only at h
    generalize ((utf8 tail).takeWhile (· == 0x75)).length = marks at h ht
    subst ht
    cases marks with
    | zero => cases h
    | succ marks =>
      rw [if_neg (Nat.succ_ne_zero marks)] at h
      obtain ⟨digits, hslice, hread⟩ := Option.bind_eq_some_iff.mp h
      split at hread
      · cases hread
      · rename_i hall
        have hdigits : ∀ b ∈ digits, ∃ n, digit? b = some n := by
          intro b hb
          simp only [Bool.not_eq_true', Bool.not_eq_false, List.all_eq_true] at hall
          exact Option.isSome_iff_exists.mp (hall b hb)
        obtain ⟨w, x, y, z, rest, rfl, rfl⟩ := exists_digits_of_slice? hslice hdigits
        obtain ⟨i, hi⟩ := hdigits w (by simp)
        obtain ⟨j, hj⟩ := hdigits x (by simp)
        obtain ⟨k, hk⟩ := hdigits y (by simp)
        obtain ⟨l, hl⟩ := hdigits z (by simp)
        rw [readUnit?_of_digits hi hj hk hl] at hread
        cases hread
        have hspells := Spells.intro marks (hexDigit?_eq_some_iff.mp hi)
          (hexDigit?_eq_some_iff.mp hj) (hexDigit?_eq_some_iff.mp hk) (hexDigit?_eq_some_iff.mp hl)
        refine ⟨_, rest, hspells, by simp, ?_⟩
        rw [length_utf8_of_spells hspells]
        simp
        omega
  · cases h

lemma parseEscape?_utf8 (s : List Char) : parseEscape? (utf8 s) =
    (readEscape? s).map fun e => (e.unit, (utf8 e.spelling).length) := by
  cases hread : readEscape? s with
  | some e =>
    obtain ⟨hspells, hs⟩ := readEscape?_eq_some_iff.mp hread
    rw [hs, parseEscape?_spelling hspells]
    rfl
  | none =>
    rw [Option.map_none, Option.eq_none_iff_forall_ne_some]
    -- what is read from the bytes was spelled by characters
    rintro ⟨unit, len⟩ hparse
    obtain ⟨spelling, rest, hspells, rfl, -⟩ := exists_spells_of_parseEscape? hparse
    rw [hspells.readEscape?_append] at hread
    cases hread

end Reading

section Rounds

lemma joinSurrogates_bounds (hhigh : isHighSurrogate high = true)
    (hlow : isLowSurrogate low = true) :
    0x10000 ≤ joinSurrogates high low ∧ joinSurrogates high low ≤ 0x10FFFF := by
  rw [isHighSurrogate_iff] at hhigh
  rw [isLowSurrogate_iff] at hlow
  unfold joinSurrogates
  omega

lemma add_of_lt {a b : Nat} (h : a + b < 0x100000000) : add a b = .ok (a + b) :=
  if_pos h

lemma sub_add_left (a b : Nat) : sub (a + b) a = .ok b := by
  rw [sub, if_pos (Nat.le_add_right a b), Nat.add_sub_cancel_left]

lemma shift_of_lt {n : Nat} (h : n < 0x400) : (n <<< 10) % 0x100000000 = n * 0x400 := by
  rw [Nat.shiftLeft_eq]
  omega

lemma codePoint_eq (hhigh : isHighSurrogate high = true) (hlow : isLowSurrogate low = true) :
    codePoint high low = .ok (joinSurrogates high low) := by
  rw [isHighSurrogate_iff] at hhigh
  rw [isLowSurrogate_iff] at hlow
  obtain ⟨upper, rfl⟩ := Nat.exists_eq_add_of_le hhigh.1
  obtain ⟨lower, rfl⟩ := Nat.exists_eq_add_of_le hlow.1
  have hupper : upper < 0x400 := by omega
  have hjoin : joinSurrogates (0xD800 + upper) (0xDC00 + lower) =
      0x10000 + upper * 0x400 + lower := by
    unfold joinSurrogates
    omega
  have hbase : 0x10000 + upper * 0x400 < 0x100000000 := by omega
  have hcode : 0x10000 + upper * 0x400 + lower < 0x100000000 := by omega
  simp only [codePoint, sub_add_left, bind, Except.bind, shift_of_lt hupper, add_of_lt hbase,
    add_of_lt hcode, hjoin]

lemma charBytes?_of_isValidChar {code : Nat} (h : code.isValidChar) :
    charBytes? code = some (utf8 [Char.ofNat code]) := by
  rw [charBytes?, if_pos h, utf8_cons, utf8_nil, List.append_nil]

structure Splits (s put rest : List Char) : Prop where
  decode : decodeEscapes s = put ++ decodeEscapes rest
  shorter : put ++ rest = s ∨ (utf8 (put ++ rest)).length < (utf8 s).length

namespace Splits

variable {put put' rest' : List Char}

lemma refl (s : List Char) : Splits s [] s :=
  ⟨rfl, Or.inl rfl⟩

lemma trans (h : Splits s put rest) (h' : Splits rest put' rest') :
    Splits s (put ++ put') rest' := by
  refine ⟨by rw [h.decode, h'.decode, List.append_assoc], ?_⟩
  have hle : (utf8 (put ++ rest)).length ≤ (utf8 s).length := by
    rcases h.shorter with he | hlt
    · rw [he]
    · exact Nat.le_of_lt hlt
  rcases h'.shorter with he' | hlt'
  · rw [List.append_assoc, he']
    exact h.shorter
  · right
    simp only [utf8_append, List.length_append] at hle hlt' ⊢
    omega

lemma of_not_mem (h : '\x5c' ∉ t) (s : List Char) : Splits (t ++ s) t s := by
  refine ⟨?_, Or.inl rfl⟩
  induction t with
  | nil => rfl
  | cons c t ih =>
    rw [List.mem_cons, not_or] at h
    rw [List.cons_append, decodeEscapes_cons_of_ne (Ne.symm h.1), ih h.2, List.cons_append]

lemma finish (h : '\x5c' ∉ s) : Splits s s [] := by
  have hplain := of_not_mem h []
  rwa [List.append_nil] at hplain

lemma of_spells (h : Spells unit spelling) (hdecode : decodeEscapes s = c :: decodeEscapes rest)
    (hs : s = spelling ++ (t ++ rest)) : Splits s [c] rest := by
  refine ⟨hdecode, Or.inr ?_⟩
  -- a character takes at most four bytes, and an escape at least six
  have hsize := c.utf8Size_le_four
  have hlength : 6 ≤ (utf8 spelling).length := by
    rw [length_utf8_of_spells h]
    exact readEscape?_spelling_length (h.readEscape?_append [])
  simp only [hs, List.singleton_append, utf8_cons, utf8_append, List.length_append,
    String.length_utf8EncodeChar]
  omega

end Splits

lemma pair?_utf8 (unit : Nat) (s rest : List Char) :
    pair? (utf8 (s ++ rest)) unit (utf8 s).length = .ok ((readEscape? rest).bind fun e =>
      if isHighSurrogate unit && isLowSurrogate e.unit then
        some (utf8 [Char.ofNat (joinSurrogates unit e.unit)],
          (utf8 s).length + (utf8 e.spelling).length)
      else none) := by
  rw [pair?]
  cases hhigh : isHighSurrogate unit with
  | false => cases readEscape? rest <;> rfl
  | true =>
    simp only [if_true, sliceFrom_utf8, bind, Except.bind, parseEscape?_utf8]
    cases readEscape? rest with
    | none => rfl
    | some e =>
      simp only [Option.map_some, Option.bind_some, Bool.true_and]
      split
      · rename_i hlow
        obtain ⟨hlo, hhi⟩ := joinSurrogates_bounds hhigh hlow
        have hvalid : (joinSurrogates unit e.unit).isValidChar := by
          unfold Nat.isValidChar
          omega
        rw [codePoint_eq hhigh hlow]
        simp only [charBytes?_of_isValidChar hvalid]
        rfl
      · rfl

lemma turn_utf8_of_spells (hspells : Spells unit spelling) (s : List Char) : ∃ put rest,
    turn (utf8 (spelling ++ s)) = .ok (utf8 put, utf8 rest) ∧ Splits (spelling ++ s) put rest := by
  obtain ⟨more, hmore⟩ := hspells.exists_eq_cons
  have hone : sliceFrom (utf8 (spelling ++ s)) 1 = .ok (utf8 ('u' :: (more ++ s))) := by
    rw [hmore]
    exact sliceFrom_utf8 ['\x5c'] ('u' :: (more ++ s))
  have hmark : (utf8 ('u' :: (more ++ s))).head? ≠ some 0x5C := by
    change some 0x75 ≠ some 0x5C
    decide
  have hdecode := decodeEscapes_spelling hspells s
  rw [turn, hone]
  simp only [bind, Except.bind, pure, Except.pure, if_neg hmark, parseEscape?_spelling hspells,
    sliceFrom_utf8]
  by_cases hvalid : unit.isValidChar
  · -- a character of one unit
    rw [if_pos hvalid] at hdecode
    rw [charBytes?_of_isValidChar hvalid]
    exact ⟨_, _, rfl, .of_spells hspells hdecode (t := []) rfl⟩
  · rw [if_neg hvalid] at hdecode
    rw [charBytes?, if_neg hvalid, pair?_utf8]
    simp only [slice_utf8]
    cases hread : readEscape? s with
    | none =>
      rw [hread] at hdecode
      exact ⟨_, _, rfl, hdecode, Or.inl rfl⟩
    | some e =>
      obtain ⟨hlow, hs⟩ := readEscape?_eq_some_iff.mp hread
      rw [hread] at hdecode
      dsimp only at hdecode
      simp only [Option.bind_some]
      cases hpair : isHighSurrogate unit && isLowSurrogate e.unit with
      | false =>
        rw [hpair, if_neg Bool.false_ne_true] at hdecode
        exact ⟨_, _, rfl, hdecode, Or.inl rfl⟩
      | true =>
        rw [hpair, if_pos rfl] at hdecode
        have hboth : sliceFrom (utf8 (spelling ++ s))
            ((utf8 spelling).length + (utf8 e.spelling).length) = .ok (utf8 e.rest) := by
          rw [hs, ← List.append_assoc, ← List.length_append, ← utf8_append]
          exact sliceFrom_utf8 (spelling ++ e.spelling) e.rest
        simp only [if_true, hboth]
        exact ⟨_, _, rfl, .of_spells hspells hdecode (congrArg _ hs)⟩

lemma turn_utf8 (s : List Char) : ∃ put rest,
    turn (utf8 ('\x5c' :: s)) = .ok (utf8 put, utf8 rest) ∧ Splits ('\x5c' :: s) put rest := by
  cases hread : readEscape? ('\x5c' :: s) with
  | some e =>
    obtain ⟨hspells, hs⟩ := readEscape?_eq_some_iff.mp hread
    rw [hs]
    exact turn_utf8_of_spells hspells e.rest
  | none =>
    have hone : sliceFrom (utf8 ('\x5c' :: s)) 1 = .ok (utf8 s) := sliceFrom_utf8 ['\x5c'] s
    rw [turn, hone]
    simp only [bind, Except.bind, pure, Except.pure, parseEscape?_utf8, hread, Option.map_none]
    split
    · rename_i hnext
      obtain ⟨bytes, hbytes⟩ := List.head?_eq_some_iff.mp hnext
      obtain ⟨s, rfl, -⟩ := exists_eq_backslash_of_utf8 hbytes
      have htwo : sliceFrom (utf8 ('\x5c' :: '\x5c' :: s)) 2 = .ok (utf8 s) :=
        sliceFrom_utf8 ['\x5c', '\x5c'] s
      rw [htwo]
      exact ⟨['\x5c', '\x5c'], s, rfl, decodeEscapes_backslashes s, Or.inl rfl⟩
    · rename_i hnext
      have hhead : s.head? ≠ some '\x5c' := by
        intro hs
        obtain ⟨tail, rfl⟩ := List.head?_eq_some_iff.mp hs
        exact hnext rfl
      exact ⟨['\x5c'], s, rfl, decodeEscapes_cons hread fun _ => hhead, Or.inl rfl⟩

lemma findIdx?_utf8_of_not_mem (h : '\x5c' ∉ s) : (utf8 s).findIdx? (· == 0x5C) = none := by
  rw [List.findIdx?_eq_none_iff]
  intro b hb
  rw [beq_eq_false_iff_ne]
  rintro rfl
  exact backslash_not_mem_utf8 h hb

lemma round_utf8_of_not_mem (h : '\x5c' ∉ s) (out : Bytes) :
    round out (utf8 s) = .ok (.finished (out ++ utf8 s)) := by
  rw [round, findIdx?_utf8_of_not_mem h]
  rfl

lemma round_utf8_of_mem (h : '\x5c' ∈ s) (out : Bytes) : ∃ put rest,
    round out (utf8 s) = .ok (.again (out ++ utf8 put) (utf8 rest)) ∧ Splits s put rest := by
  obtain ⟨before, tail, rfl, hbefore⟩ := List.eq_append_cons_of_mem h
  obtain ⟨put, rest, hturn, hsplits⟩ := turn_utf8 tail
  have hpos : (utf8 (before ++ '\x5c' :: tail)).findIdx? (· == 0x5C) =
      some (utf8 before).length := by
    have htail : (utf8 ('\x5c' :: tail)).findIdx? (· == 0x5C) = some 0 := rfl
    rw [utf8_append, List.findIdx?_append, findIdx?_utf8_of_not_mem hbefore, htail]
    simp
  refine ⟨before ++ put, rest, ?_, (Splits.of_not_mem hbefore _).trans hsplits⟩
  simp only [round, hpos, slice_utf8, sliceFrom_utf8, hturn, bind, Except.bind, pure, Except.pure]
  rw [utf8_append, List.append_assoc]

end Rounds

inductive Reaches (input : Bytes) : Bytes → Bytes → Prop
  | start : Reaches input [] input
  | again {out rest out' rest' : Bytes} (reached : Reaches input out rest)
      (turned : round out rest = .ok (.again out' rest')) : Reaches input out' rest'

lemma Reaches.exists_splits {left : Bytes} (h : Reaches (utf8 s) out left) :
    ∃ put rest, out = utf8 put ∧ left = utf8 rest ∧ Splits s put rest := by
  induction h with
  | start => exact ⟨[], s, rfl, rfl, .refl s⟩
  | again _ turned ih =>
    obtain ⟨put, rest, rfl, rfl, hsplits⟩ := ih
    by_cases hmem : '\x5c' ∈ rest
    · obtain ⟨put', rest', hround, hsplits'⟩ := round_utf8_of_mem hmem (utf8 put)
      rw [turned] at hround
      cases hround
      exact ⟨put ++ put', rest', (utf8_append _ _).symm, rfl, hsplits.trans hsplits'⟩
    · rw [round_utf8_of_not_mem hmem] at turned
      cases turned

lemma loop_of_again {out' rest rest' : Bytes} (h : round out rest = .ok (.again out' rest')) :
    loop out rest = loop out' rest' := by
  rw [loop]
  split <;> rename_i hround <;> rw [h] at hround <;> cases hround
  rfl

lemma loop_of_finished {out' rest : Bytes} (h : round out rest = .ok (.finished out')) :
    loop out rest = .ok out' := by
  rw [loop]
  split <;> rename_i hround <;> rw [h] at hround <;> cases hround
  rfl

lemma loop_utf8 (s : List Char) (out : Bytes) :
    ∃ put, loop out (utf8 s) = .ok (out ++ utf8 put) ∧ Splits s put [] := by
  -- on the number of bytes that are left, which every round makes smaller
  induction hn : (utf8 s).length using Nat.strong_induction_on generalizing s out with
  | h n ih =>
    subst hn
    by_cases hmem : '\x5c' ∈ s
    · obtain ⟨put, rest, hround, hsplits⟩ := round_utf8_of_mem hmem out
      obtain ⟨put', hloop, hsplits'⟩ := ih _ (round_length hround) rest (out ++ utf8 put) rfl
      refine ⟨put ++ put', ?_, hsplits.trans hsplits'⟩
      rw [loop_of_again hround, hloop, utf8_append, List.append_assoc]
    · exact ⟨s, loop_of_finished (round_utf8_of_not_mem hmem out), .finish hmem⟩

lemma Splits.eq_decodeEscapes {put : List Char} (h : Splits s put []) : put = decodeEscapes s := by
  rw [h.decode, decodeEscapes_nil, List.append_nil]

lemma mentionsEscape_append (front bytes : Bytes) :
    mentionsEscape (front ++ 0x5C :: 0x75 :: bytes) = true := by
  induction front with
  | nil => rfl
  | cons b front ih =>
    rw [List.cons_append]
    unfold mentionsEscape
    split
    · rfl
    · rename_i he
      obtain ⟨-, rfl⟩ := List.cons.inj he
      exact ih
    · rename_i he
      cases he

lemma mentionsEscape_utf8 (h : ['\x5c', 'u'] <:+: s) : mentionsEscape (utf8 s) = true := by
  obtain ⟨before, after, rfl⟩ := h
  rw [List.append_assoc, utf8_append]
  exact mentionsEscape_append (utf8 before) (utf8 after)

lemma scan_utf8 (s : List Char) : scan (utf8 s) = .ok (utf8 (decodeEscapes s)) := by
  rw [scan]
  split
  · obtain ⟨put, hloop, hsplits⟩ := loop_utf8 s []
    rw [hloop, hsplits.eq_decodeEscapes]
    rfl
  · rename_i hmentions
    rw [← translates_nil_iff.mp (translates_self (mt mentionsEscape_utf8 hmentions) [])]

/-- Decoding a text on its bytes goes on from every state that is reached without a fault, so that
no cut is out of range or inside a character; what is put out and what is left are characters, and
each round leaves less. Surrogate pairs give code points beyond the first plane. The output is that
of decoding on characters, and it is shorter than the input unless it is the same. -/
theorem scan_safe (input : String) :
    (∀ out rest, Reaches (Text.encode input) out rest →
      (∃ put left : String, out = Text.encode put ∧ rest = Text.encode left) ∧
      ∃ next, round out rest = .ok next ∧
        ∀ out' rest', next = .again out' rest' → rest'.length < rest.length) ∧
    (∀ high low, isHighSurrogate high = true → isLowSurrogate low = true →
      ∃ code, codePoint high low = .ok code ∧ 0x10000 ≤ code ∧ code ≤ 0x10FFFF) ∧
    scan (Text.encode input) = .ok (Text.encode (unescape input)) ∧
    (Text.encode (unescape input)).length ≤ (Text.encode input).length ∧
    ((Text.encode (unescape input)).length = (Text.encode input).length →
      unescape input = input) := by
  have hdecode : (unescape input).toList = decodeEscapes input.toList := by
    rw [unescape, String.toList_ofList, unescapeChars_eq]
  obtain ⟨put, -, hsplits⟩ := loop_utf8 input.toList []
  obtain rfl := hsplits.eq_decodeEscapes
  have hshorter := hsplits.shorter
  rw [List.append_nil, ← hdecode] at hshorter
  refine ⟨fun out rest hreached => ?_, fun high low hhigh hlow => ?_, ?_, ?_, ?_⟩
  · obtain ⟨put, left, rfl, rfl, -⟩ := hreached.exists_splits
    refine ⟨⟨.ofList put, .ofList left, ?_, ?_⟩, ?_⟩
    · rw [encode_eq, String.toList_ofList]
    · rw [encode_eq, String.toList_ofList]
    · by_cases hmem : '\x5c' ∈ left
      · obtain ⟨put', rest, hround, -⟩ := round_utf8_of_mem hmem (utf8 put)
        exact ⟨_, hround, fun out' rest' he => round_length (hround.trans (congrArg _ he))⟩
      · exact ⟨_, round_utf8_of_not_mem hmem (utf8 put), by simp⟩
  · exact ⟨_, codePoint_eq hhigh hlow, joinSurrogates_bounds hhigh hlow⟩
  · rw [encode_eq, encode_eq, hdecode, scan_utf8]
  · rw [encode_eq, encode_eq]
    rcases hshorter with he | hlt
    · rw [he]
    · exact Nat.le_of_lt hlt
  · intro hlength
    rw [encode_eq, encode_eq] at hlength
    rcases hshorter with he | hlt
    · exact String.toList_inj.mp he
    · omega

theorem scan_safe_of_wide :
    Reaches (Text.encode "é\\uuD83D\\uDE00\\u12é\\") (Text.encode "é😀") (Text.encode "\\u12é\\") ∧
    (∃ next, round (Text.encode "é😀") (Text.encode "\\u12é\\") = .ok next) ∧
    isHighSurrogate 0xD83D = true ∧ isLowSurrogate 0xDE00 = true ∧
    (∃ code, codePoint 0xD83D 0xDE00 = .ok code ∧ 0x10000 ≤ code ∧ code ≤ 0x10FFFF) ∧
    (Text.encode (unescape "\\\\u00e9")).length = (Text.encode "\\\\u00e9").length ∧
    unescape "\\\\u00e9" = "\\\\u00e9" := by
  have hreached : Reaches (Text.encode "é\\uuD83D\\uDE00\\u12é\\") (Text.encode "é😀")
      (Text.encode "\\u12é\\") :=
    .again .start (by decide +kernel)
  have hlength : (Text.encode (unescape "\\\\u00e9")).length =
      (Text.encode "\\\\u00e9").length := by
    decide +kernel
  obtain ⟨-, next, hnext, -⟩ := (scan_safe _).1 _ _ hreached
  exact ⟨hreached, ⟨next, hnext⟩, rfl, rfl, (scan_safe "").2.1 _ _ rfl rfl, hlength,
    (scan_safe _).2.2.2.2 hlength⟩

end ClassBatch.Source.Scan
