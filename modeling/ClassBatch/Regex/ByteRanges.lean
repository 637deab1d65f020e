import ClassBatch.Unicode.CharSet

/-! Sets of characters as sequences of ranges of bytes in UTF-8. -/

namespace ClassBatch.Regex

open Unicode

def byteCount (n : Nat) : Nat :=
  if n < 0x80 then 1 else if n < 0x800 then 2 else if n < 0x10000 then 3 else 4

def cutAt (size : Nat) (r : Range) : List Range :=
  if r.lo / size = r.hi / size then [r]
  else
    let upper := if r.hi % size = size - 1 then r.hi + 1 else r.hi / size * size
    let head := if r.lo % size = 0 then [] else [⟨r.lo, r.lo / size * size + size - 1⟩]
    let middle := if r.lo % size = 0 then r.lo else r.lo / size * size + size
    head ++ (if middle < upper then [⟨middle, upper - 1⟩] else []) ++
      (if upper ≤ r.hi then [⟨upper, r.hi⟩] else [])

def cutByLength (r : Range) : List Range :=
  [(0, 0x7F), (0x80, 0x7FF), (0x800, 0xD7FF), (0xE000, 0xFFFF), (0x10000, 0x10FFFF)].filterMap
    fun (lo, hi) =>
      if max r.lo lo ≤ min r.hi hi then some ⟨max r.lo lo, min r.hi hi⟩ else none

def utf8Bytes (n : Nat) : List Nat :=
  match byteCount n with
  | 1 => [n]
  | 2 => [0xC0 + n / 64, 0x80 + n % 64]
  | 3 => [0xE0 + n / 4096, 0x80 + n / 64 % 64, 0x80 + n % 64]
  | _ => [0xF0 + n / 262144, 0x80 + n / 4096 % 64, 0x80 + n / 64 % 64, 0x80 + n % 64]

def alignedRanges (r : Range) : List Range :=
  (cutByLength r).flatMap fun r =>
    match byteCount r.lo with
    | 1 => [r]
    | 2 => cutAt 64 r
    | 3 => (cutAt 4096 r).flatMap (cutAt 64)
    | _ => (cutAt 262144 r).flatMap fun r => (cutAt 4096 r).flatMap (cutAt 64)

def byteRanges (r : Range) : List (Nat × Nat) :=
  (utf8Bytes r.lo).zip (utf8Bytes r.hi)

def byteSequences (s : CharSet) : List (List (Nat × Nat)) :=
  s.flatMap fun r => (alignedRanges r).map byteRanges

end ClassBatch.Regex
