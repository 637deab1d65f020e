/-!
Sets of characters as lists of ranges of code points. A normal list is sorted, and a gap lies
between each two of its ranges; the operations return normal lists.
-/

namespace ClassBatch.Unicode

structure Range where
  lo : Nat
  hi : Nat
deriving DecidableEq, Repr

abbrev CharSet := List Range

namespace CharSet

def lastCode : Nat := 0x10FFFF

def has (s : CharSet) (n : Nat) : Bool :=
  s.any fun r => r.lo ≤ n && n ≤ r.hi

def contains (s : CharSet) (c : Char) : Bool :=
  s.has c.toNat

def span (lo hi : Nat) : CharSet :=
  if lo ≤ hi then [⟨lo, hi⟩] else []

def single (c : Char) : CharSet :=
  [⟨c.toNat, c.toNat⟩]

def addRange (r : Range) : CharSet → CharSet
  | [] => [r]
  | s :: rest =>
    if s.hi + 1 < r.lo then s :: addRange r rest
    else if r.hi + 1 < s.lo then r :: s :: rest
    else addRange ⟨min r.lo s.lo, max r.hi s.hi⟩ rest

def normal (s : CharSet) : CharSet :=
  s.foldr addRange []

def union (a b : CharSet) : CharSet :=
  a.foldr addRange b

def gapsFrom (start : Nat) : CharSet → CharSet
  | [] => span start lastCode
  | r :: rest =>
    if start < r.lo then ⟨start, r.lo - 1⟩ :: gapsFrom (r.hi + 1) rest
    else gapsFrom (r.hi + 1) rest

def complement (s : CharSet) : CharSet :=
  gapsFrom 0 s

def intersect (a b : CharSet) : CharSet :=
  complement (union (complement a) (complement b))

def difference (a b : CharSet) : CharSet :=
  intersect a (complement b)

def symmetricDifference (a b : CharSet) : CharSet :=
  difference (union a b) (intersect a b)

def hexValue (digits : List Char) : Nat :=
  digits.foldl (fun n c => n * 16 + if c ≤ '9' then c.toNat - 48 else c.toNat - 55) 0

def readRange (text : List Char) : Range :=
  let lo := hexValue (text.takeWhile (· ≠ '-'))
  match text.dropWhile (· ≠ '-') with
  | _ :: hi => ⟨lo, hexValue hi⟩
  | [] => ⟨lo, lo⟩

def readLine (word : List Char) : List Char → CharSet
  | [] => if word.isEmpty then [] else [readRange word.reverse]
  | ' ' :: rest =>
    if word.isEmpty then readLine [] rest else readRange word.reverse :: readLine [] rest
  | c :: rest => readLine (c :: word) rest

def ofLines (lines : List String) : CharSet :=
  lines.flatMap fun line => readLine [] line.toList

end CharSet

end ClassBatch.Unicode
