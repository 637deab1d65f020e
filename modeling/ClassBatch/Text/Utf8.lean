/-!
Texts as bytes in UTF-8. A decoder takes the longest start of a character that the bytes allow;
where no character comes of it, that start counts as one fault.
-/

namespace ClassBatch.Text

abbrev Bytes := List UInt8

def encode (s : String) : Bytes :=
  s.toList.flatMap String.utf8EncodeChar

def leadByte? (b : UInt8) : Option (Nat × UInt8 × UInt8) :=
  if 0xC2 ≤ b && b ≤ 0xDF then some (1, 0x80, 0xBF)
  else if b == 0xE0 then some (2, 0xA0, 0xBF)
  else if b == 0xED then some (2, 0x80, 0x9F)
  else if 0xE1 ≤ b && b ≤ 0xEF then some (2, 0x80, 0xBF)
  else if b == 0xF0 then some (3, 0x90, 0xBF)
  else if 0xF1 ≤ b && b ≤ 0xF3 then some (3, 0x80, 0xBF)
  else if b == 0xF4 then some (3, 0x80, 0x8F)
  else none

/-- Reads `count` further bytes, the first of them between `lo` and `hi`. On a fault the rest
begins with the byte that does not fit. -/
def readTail (value : Nat) (lo hi : UInt8) : Nat → Bytes → Option Nat × Bytes
  | 0, s => (some value, s)
  | _ + 1, [] => (none, [])
  | count + 1, b :: s =>
    if lo ≤ b && b ≤ hi then readTail (value * 64 + (b.toNat - 0x80)) 0x80 0xBF count s
    else (none, b :: s)

def leadValue (b : UInt8) (count : Nat) : Nat :=
  b.toNat % (if count = 1 then 32 else if count = 2 then 16 else 8)

def readChar (b : UInt8) (s : Bytes) : Option Char × Bytes :=
  if b < 0x80 then (some (Char.ofNat b.toNat), s)
  else match leadByte? b with
    | none => (none, s)
    | some (count, lo, hi) =>
      let (value, rest) := readTail (leadValue b count) lo hi count s
      (value.map Char.ofNat, rest)

theorem readTail_length (value : Nat) (lo hi : UInt8) (count : Nat) (s : Bytes) :
    (readTail value lo hi count s).2.length ≤ s.length := by
  induction count generalizing value lo hi s with
  | zero => simp [readTail]
  | succ count ih =>
    cases s with
    | nil => simp [readTail]
    | cons b s =>
      simp only [readTail]
      split
      · exact Nat.le_succ_of_le (ih ..)
      · simp

theorem readChar_length (b : UInt8) (s : Bytes) : (readChar b s).2.length ≤ s.length := by
  unfold readChar
  split
  · simp
  · split
    · simp
    · exact readTail_length ..

def readChars (seen : List (Option Char)) (s : Bytes) : List (Option Char) :=
  match s with
  | [] => seen
  | b :: rest => readChars ((readChar b rest).1 :: seen) (readChar b rest).2
termination_by s.length
decreasing_by exact Nat.lt_succ_of_le (readChar_length b rest)

def decodeLossy (s : Bytes) : String :=
  String.ofList ((readChars [] s).reverse.map fun c => c.getD '\ufffd')

def decode? (s : Bytes) : Option String :=
  let chars := readChars [] s
  if chars.all Option.isSome then some (String.ofList (chars.reverse.filterMap id)) else none

end ClassBatch.Text
