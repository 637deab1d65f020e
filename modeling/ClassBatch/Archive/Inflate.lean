/-!
Decompression of deflated data. A stream that stops early yields what it holds so far; whether
that is all there should be is for a checksum to say.
-/

namespace ClassBatch.Archive.Inflate

abbrev Bits := List Bool

def byteBits (b : UInt8) : Bits :=
  (List.range 8).map fun i => b.toNat.testBit i

def bitsOf (s : List UInt8) : Bits :=
  s.flatMap byteBits

inductive Stop
  | outOfBits
  | corrupt

def readBits : Nat → Bits → Except Stop (Nat × Bits)
  | 0, s => .ok (0, s)
  | _ + 1, [] => .error .outOfBits
  | n + 1, b :: s => do
    let (value, rest) ← readBits n s
    return (b.toNat + 2 * value, rest)

structure Code where
  counts : List Nat
  symbols : Array Nat

def maxCodeLength : Nat := 15

def Code.ofLengths? (lengths : List Nat) : Option Code :=
  let counts := (List.range maxCodeLength).map fun i => lengths.count (i + 1)
  let space := counts.foldl (fun (left : Int) (n : Nat) => 2 * left - n) 1
  let used := counts.foldl (· + ·) 0
  let symbols := (List.range maxCodeLength).flatMap fun i =>
    lengths.zipIdx.filterMap fun (length, symbol) => if length = i + 1 then some symbol else none
  if space = 0 ∨ used ≤ 1 then some ⟨counts, symbols.toArray⟩ else none

def Code.walk (symbols : Array Nat) (code first index : Nat) :
    List Nat → Bits → Except Stop (Nat × Bits)
  | [], _ => .error .corrupt
  | _ :: _, [] => .error .outOfBits
  | count :: counts, b :: s =>
    let code := code * 2 + b.toNat
    let first := first * 2
    if code < first + count then
      match symbols[index + (code - first)]? with
      | some symbol => .ok (symbol, s)
      | none => .error .corrupt
    else walk symbols code (first + count) (index + count) counts s

def Code.read (c : Code) (s : Bits) : Except Stop (Nat × Bits) :=
  Code.walk c.symbols 0 0 0 c.counts s

def lengthTable : List (Nat × Nat) :=
  [(3, 0), (4, 0), (5, 0), (6, 0), (7, 0), (8, 0), (9, 0), (10, 0), (11, 1), (13, 1), (15, 1),
    (17, 1), (19, 2), (23, 2), (27, 2), (31, 2), (35, 3), (43, 3), (51, 3), (59, 3), (67, 4),
    (83, 4), (99, 4), (115, 4), (131, 5), (163, 5), (195, 5), (227, 5), (258, 0)]

def distanceTable : List (Nat × Nat) :=
  [(1, 0), (2, 0), (3, 0), (4, 0), (5, 1), (7, 1), (9, 2), (13, 2), (17, 3), (25, 3), (33, 4),
    (49, 4), (65, 5), (97, 5), (129, 6), (193, 6), (257, 7), (385, 7), (513, 8), (769, 8),
    (1025, 9), (1537, 9), (2049, 10), (3073, 10), (4097, 11), (6145, 11), (8193, 12),
    (12289, 12), (16385, 13), (24577, 13)]

def readExtended (table : List (Nat × Nat)) (symbol : Nat) (s : Bits) :
    Except Stop (Nat × Bits) := do
  match table[symbol]? with
  | none => .error .corrupt
  | some (base, extra) =>
    let (more, rest) ← readBits extra s
    return (base + more, rest)

/-- Appends `count` bytes that stand `distance` back; bytes before the start are zero. -/
def copyBack (distance : Nat) : Nat → Array UInt8 → Array UInt8
  | 0, out => out
  | count + 1, out =>
    let b := if distance ≤ out.size then out[out.size - distance]?.getD 0 else 0
    copyBack distance count (out.push b)

structure Progress where
  out : Array UInt8
  rest : Bits
  stop : Option Stop := none

inductive Item
  | literal (b : UInt8)
  | copy (distance count : Nat)
  | blockEnd

def readItem (literals distances : Code) (s : Bits) : Except Stop (Item × Bits) := do
  let (symbol, s) ← literals.read s
  if symbol < 256 then return (.literal (UInt8.ofNat symbol), s)
  else if symbol = 256 then return (.blockEnd, s)
  else
    let (count, s) ← readExtended lengthTable (symbol - 257) s
    let (symbol, s) ← distances.read s
    let (distance, s) ← readExtended distanceTable symbol s
    return (.copy distance count, s)

def readItems (literals distances : Code) : Nat → Array UInt8 → Bits → Progress
  | 0, out, s => ⟨out, s, some .outOfBits⟩
  | fuel + 1, out, s =>
    match readItem literals distances s with
    | .error stop => ⟨out, s, some stop⟩
    | .ok (.literal b, s) => readItems literals distances fuel (out.push b) s
    | .ok (.copy distance count, s) =>
      readItems literals distances fuel (copyBack distance count out) s
    | .ok (.blockEnd, s) => ⟨out, s, none⟩

def fixedLiterals : List Nat :=
  List.replicate 144 8 ++ List.replicate 112 9 ++ List.replicate 24 7 ++ List.replicate 8 8

def fixedDistances : List Nat :=
  List.replicate 32 5

def codeOrder : List Nat :=
  [16, 17, 18, 0, 8, 7, 9, 6, 10, 5, 11, 4, 12, 3, 13, 2, 14, 1, 15]

def readCodeLengths : Nat → Bits → Except Stop (List Nat × Bits)
  | 0, s => .ok ([], s)
  | n + 1, s => do
    let (length, s) ← readBits 3 s
    let (lengths, s) ← readCodeLengths n s
    return (length :: lengths, s)

def readLengths (code : Code) (total : Nat) : Nat → List Nat → Bits →
    Except Stop (List Nat × Bits)
  | 0, _, _ => .error .corrupt
  | fuel + 1, seen, s =>
    if seen.length = total then .ok (seen, s)
    else if seen.length > total then .error .corrupt
    else do
      let (symbol, s) ← code.read s
      if symbol < 16 then readLengths code total fuel (symbol :: seen) s
      else if symbol = 16 then
        match seen with
        | [] => .error .corrupt
        | last :: _ =>
          let (more, s) ← readBits 2 s
          readLengths code total fuel (List.replicate (3 + more) last ++ seen) s
      else if symbol = 17 then
        let (more, s) ← readBits 3 s
        readLengths code total fuel (List.replicate (3 + more) 0 ++ seen) s
      else
        let (more, s) ← readBits 7 s
        readLengths code total fuel (List.replicate (11 + more) 0 ++ seen) s

def orCorrupt {α : Type} : Option α → Except Stop α
  | some a => .ok a
  | none => .error .corrupt

def readCodes (s : Bits) : Except Stop ((Code × Code) × Bits) := do
  let (literals, s) ← readBits 5 s
  let (distances, s) ← readBits 5 s
  let (lengths, s) ← readBits 4 s
  let literals := literals + 257
  let distances := distances + 1
  if literals > 286 ∨ distances > 30 then .error .corrupt
  else
    let (given, s) ← readCodeLengths (lengths + 4) s
    let table := codeOrder.zip given
    let code ← orCorrupt (Code.ofLengths? ((List.range 19).map fun i => (table.lookup i).getD 0))
    let total := literals + distances
    let (seen, s) ← readLengths code total (total + 1) [] s
    let all := seen.reverse
    let literalCode ← orCorrupt (Code.ofLengths? (all.take literals))
    let distanceCode ← orCorrupt (Code.ofLengths? (all.drop literals))
    return ((literalCode, distanceCode), s)

def bitsByte (s : Bits) : UInt8 :=
  UInt8.ofNat (s.foldr (fun b n => b.toNat + 2 * n) 0)

def copyStored : Nat → Array UInt8 → Bits → Progress
  | 0, out, s => ⟨out, s, none⟩
  | count + 1, out, s =>
    if (s.take 8).length < 8 then ⟨out, s, some .outOfBits⟩
    else copyStored count (out.push (bitsByte (s.take 8))) (s.drop 8)

def readStored (out : Array UInt8) (s : Bits) : Progress :=
  let header := do
    let (length, s) ← readBits 16 (s.drop (s.length % 8))
    let (inverse, s) ← readBits 16 s
    if length + inverse = 0xFFFF then pure (length, s) else .error .corrupt
  match header with
  | .error stop => ⟨out, s, some stop⟩
  | .ok (length, s) => copyStored length out s

def readCoded (codes : Except Stop ((Code × Code) × Bits)) (out : Array UInt8) (s : Bits) :
    Progress :=
  match codes with
  | .error stop => ⟨out, s, some stop⟩
  | .ok ((literals, distances), s) => readItems literals distances (s.length + 1) out s

def fixedCodes (s : Bits) : Except Stop ((Code × Code) × Bits) := do
  let literals ← orCorrupt (Code.ofLengths? fixedLiterals)
  let distances ← orCorrupt (Code.ofLengths? fixedDistances)
  return ((literals, distances), s)

def readBlock (kind : Nat) (out : Array UInt8) (s : Bits) : Progress :=
  match kind with
  | 0 => readStored out s
  | 1 => readCoded (fixedCodes s) out s
  | 2 => readCoded (readCodes s) out s
  | _ => ⟨out, s, some .corrupt⟩

def readBlocks : Nat → Array UInt8 → Bits → Progress
  | 0, out, s => ⟨out, s, some .outOfBits⟩
  | fuel + 1, out, s =>
    match readBits 3 s with
    | .error stop => ⟨out, s, some stop⟩
    | .ok (header, s) =>
      let block := readBlock (header / 2) out s
      if block.stop.isSome || header % 2 = 1 then block
      else readBlocks fuel block.out block.rest

/-- The bytes of a deflated stream, or none if it is corrupt. -/
def inflate? (s : List UInt8) : Option (List UInt8) :=
  let bits := bitsOf s
  let result := readBlocks (bits.length + 1) #[] bits
  match result.stop with
  | some .corrupt => none
  | _ => some result.out.toList

end ClassBatch.Archive.Inflate
