import ClassBatch.Regex.Escape

/-!
Sets of characters in brackets, with ranges, nested sets and the operations `&&`, `--` and `~~`.
A stack holds the brackets that are open and the operations whose right side is being read.
-/

namespace ClassBatch.Regex

open Unicode

structure Items where
  set : CharSet := []
  count : Nat := 0
  depth : Nat := 0

namespace Items

def push (items : Items) (set : CharSet) (depth : Nat := 0) : Items :=
  ⟨items.set.union set, items.count + 1, max items.depth depth⟩

def level (items : Items) : Nat :=
  if items.count < 2 then items.depth else items.depth + 1

end Items

inductive Operation
  | intersection
  | difference
  | symmetricDifference

def Operation.apply : Operation → CharSet → CharSet → CharSet
  | intersection => CharSet.intersect
  | difference => CharSet.difference
  | symmetricDifference => CharSet.symmetricDifference

inductive BracketFrame
  | opened (outer : Items) (negated : Bool)
  | operand (operation : Operation) (left : CharSet) (depth : Nat)

def asciiClass? (name : List Char) : Option CharSet :=
  match String.ofList name with
  | "alnum" => some [⟨0x30, 0x39⟩, ⟨0x41, 0x5A⟩, ⟨0x61, 0x7A⟩]
  | "alpha" => some [⟨0x41, 0x5A⟩, ⟨0x61, 0x7A⟩]
  | "ascii" => some [⟨0x00, 0x7F⟩]
  | "blank" => some [⟨0x09, 0x09⟩, ⟨0x20, 0x20⟩]
  | "cntrl" => some [⟨0x00, 0x1F⟩, ⟨0x7F, 0x7F⟩]
  | "digit" => some [⟨0x30, 0x39⟩]
  | "graph" => some [⟨0x21, 0x7E⟩]
  | "lower" => some [⟨0x61, 0x7A⟩]
  | "print" => some [⟨0x20, 0x7E⟩]
  | "punct" => some [⟨0x21, 0x2F⟩, ⟨0x3A, 0x40⟩, ⟨0x5B, 0x60⟩, ⟨0x7B, 0x7E⟩]
  | "space" => some [⟨0x09, 0x0D⟩, ⟨0x20, 0x20⟩]
  | "upper" => some [⟨0x41, 0x5A⟩]
  | "word" => some Flags.asciiWord
  | "xdigit" => some [⟨0x30, 0x39⟩, ⟨0x41, 0x46⟩, ⟨0x61, 0x66⟩]
  | _ => none

def readAsciiClass (s : List Char) : Option ((CharSet × Bool) × List Char) := do
  let s ← Text.afterStart? [':'] s
  let (negated, s) := match s with
    | '^' :: rest => (true, rest)
    | _ => (false, s)
  let rest ← Text.afterStart? [':', ']'] (s.dropWhile (· ≠ ':'))
  return ((← asciiClass? (s.takeWhile (· ≠ ':')), negated), rest)

def readHyphens (f : Flags) (items : Items) : Nat → List Char → Items × List Char
  | 0, s => (items, s)
  | fuel + 1, '-' :: s => readHyphens f (items.push (CharSet.single '-')) fuel (f.skip s)
  | _ + 1, s => (items, s)

def openBracket (f : Flags) (s : List Char) : Option ((Bool × Items) × List Char) :=
  let (negated, s) := match f.skip s with
    | '^' :: rest => (true, f.skip rest)
    | s => (false, s)
  match readHyphens f {} s.length s with
  | (_, []) => none
  | (items, ']' :: rest) =>
    if items.count = 0 then
      match f.skip rest with
      | [] => none
      | rest => some ((negated, items.push (CharSet.single ']')), rest)
    else some ((negated, items), ']' :: rest)
  | (items, rest) => some ((negated, items), rest)

def readItem (f : Flags) : List Char → Option (Atom × List Char)
  | [] => none
  | '\x5c' :: rest => readEscape f rest
  | c :: rest => some (.char c false, rest)

def itemChar? (f : Flags) : Atom → Option Char
  | .char c _ => if f.unicode || c.toNat < 0x80 then some c else none
  | _ => none

def itemSet? (f : Flags) (item : Atom) : Option CharSet :=
  match item with
  | .set set => some set
  | .look _ => none
  | .char .. => (itemChar? f item).map CharSet.single

def readRangeItem (f : Flags) (s : List Char) : Option (CharSet × List Char) := do
  let (first, rest) ← readItem f s
  match f.skip rest with
  | [] => none
  | '-' :: behind =>
    match f.peek behind with
    | some ']' | some '-' => return (← itemSet? f first, '-' :: behind)
    | _ =>
      let (last, rest) ← readItem f (f.skip behind)
      let lo ← itemChar? f first
      let hi ← itemChar? f last
      if lo ≤ hi then return ([⟨lo.toNat, hi.toNat⟩], rest) else none
  | rest => return (← itemSet? f first, rest)

def settleOperation (f : Flags) (right : CharSet) (depth : Nat) :
    List BracketFrame → CharSet × Nat × List BracketFrame
  | .operand operation left leftDepth :: stack =>
    (operation.apply (f.fold left) (f.fold right), max leftDepth depth + 1, stack)
  | stack => (right, depth, stack)

def readBracketItems (f : Flags) :
    Nat → List BracketFrame → Items → List Char → Option ((CharSet × Nat) × List Char)
  | 0, _, _, _ => none
  | fuel + 1, stack, items, s =>
    let operate (operation : Operation) (rest : List Char) :=
      let (left, depth, stack) := settleOperation f items.set items.level stack
      readBracketItems f fuel (.operand operation left depth :: stack) {} rest
    match f.skip s with
    | [] => none
    | '[' :: rest =>
      match readAsciiClass rest with
      | some ((set, negated), rest) => do
        let set ← f.foldAndNegate negated set
        readBracketItems f fuel stack (items.push set) rest
      | none => do
        let ((negated, inner), rest) ← openBracket f rest
        readBracketItems f fuel (.opened items negated :: stack) inner rest
    | ']' :: rest =>
      match settleOperation f items.set items.level stack with
      | (set, depth, .opened outer negated :: stack) => do
        let set ← f.foldAndNegate negated set
        if stack.isEmpty then some ((set, depth + 1), rest)
        else readBracketItems f fuel stack (outer.push set (depth + 1)) rest
      | _ => none
    | '&' :: '&' :: rest => operate .intersection rest
    | '-' :: '-' :: rest => operate .difference rest
    | '~' :: '~' :: rest => operate .symmetricDifference rest
    | s => do
      let (set, rest) ← readRangeItem f s
      readBracketItems f fuel stack (items.push set) rest

def readBracket (f : Flags) (s : List Char) : Option ((CharSet × Nat) × List Char) := do
  let ((negated, items), rest) ← openBracket f s
  readBracketItems f (rest.length + 1) [.opened {} negated] items rest

end ClassBatch.Regex
