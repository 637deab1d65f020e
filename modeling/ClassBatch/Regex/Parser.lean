import ClassBatch.Regex.Bracket

/-!
Regular expressions. The parser keeps the groups that are open on a stack, so that it reads an
expression the same way inside a group and alone.
-/

namespace ClassBatch.Regex

open Unicode

structure Part where
  expr : Expr
  depth : Nat := 0
  repeatable : Bool := true

structure Body where
  branches : List (Expr × Nat) := []
  parts : List Part := []

namespace Body

def push (b : Body) (part : Part) : Body :=
  { b with parts := part :: b.parts }

def maxDepth (depths : List Nat) : Nat :=
  depths.foldl max 0

def branch (b : Body) : Expr × Nat :=
  match b.parts with
  | [] => (.empty, 0)
  | [part] => (part.expr, part.depth)
  | parts => (Expr.concat (parts.reverse.map Part.expr), maxDepth (parts.map Part.depth) + 1)

def nextBranch (b : Body) : Body :=
  { branches := b.branch :: b.branches }

def finish (b : Body) : Expr × Nat :=
  match b.branches with
  | [] => b.branch
  | branches =>
    let all := (b.branch :: branches).reverse
    (Expr.oneOf (all.map Prod.fst), maxDepth (all.map Prod.snd) + 1)

end Body

structure Frame where
  outer : Body
  flags : Flags
  captures : Bool

structure ParserState where
  frames : List Frame := []
  body : Body := {}
  flags : Flags := {}
  names : List (List Char) := []

abbrev Step := Option (ParserState × List Char)

namespace ParserState

def push (st : ParserState) (part : Part) : ParserState :=
  { st with body := st.body.push part }

def enter (st : ParserState) (flags : Flags) (captures : Bool) : ParserState :=
  { st with frames := ⟨st.body, st.flags, captures⟩ :: st.frames, body := {}, flags }

def leave? (st : ParserState) : Option ParserState :=
  match st.frames with
  | [] => none
  | frame :: frames =>
    let (expr, depth) := st.body.finish
    let expr := if frame.captures then Expr.group expr else expr
    some { st with frames, body := frame.outer.push ⟨expr, depth + 1, true⟩, flags := frame.flags }

def repeat? (st : ParserState) (min : Nat) (max : Option Nat) : Option ParserState :=
  match st.body.parts with
  | part :: parts =>
    if part.repeatable then
      let part := ⟨part.expr.times min max, part.depth + 1, true⟩
      some { st with body := { st.body with parts := part :: parts } }
    else none
  | [] => none

end ParserState

def dropLazyMark : List Char → List Char
  | '?' :: rest => rest
  | s => s

def readDecimalDigits (f : Flags) : Nat → List Char → List Char × List Char
  | 0, s => ([], s)
  | _ + 1, [] => ([], [])
  | fuel + 1, c :: s =>
    if c.isDigit then
      let (digits, rest) := readDecimalDigits f fuel (f.skip s)
      (c :: digits, rest)
    else ([], c :: s)

def readNumber (f : Flags) (s : List Char) : Option Nat × List Char :=
  let s := s.dropWhile Text.isBlank
  let (digits, rest) := readDecimalDigits f s.length s
  let rest := f.skip (rest.dropWhile Text.isBlank)
  let value := digits.foldl (fun n c => n * 10 + (c.toNat - 48)) 0
  (if digits.isEmpty || value ≥ UInt32.size then none else some value, rest)

def readCounts (f : Flags) (s : List Char) : Option ((Nat × Option Nat) × List Char) :=
  match f.skip s with
  | [] => none
  | s => do
    let (min, rest) := readNumber f s
    let min ← min
    let (max, rest) ← match rest with
      | ',' :: rest =>
        match f.skip rest with
        | [] => none
        | '\x7d' :: rest => some (none, '\x7d' :: rest)
        | rest =>
          let (max, rest) := readNumber f rest
          max.map fun max => (some max, rest)
      | rest => some (some min, rest)
    match rest with
    | '\x7d' :: rest =>
      if max.all (min ≤ ·) then some ((min, max), dropLazyMark (f.skip rest)) else none
    | _ => none

def readFlags (flags : Flags) (seen : List Char) : List Char → Option ((Flags × Bool) × List Char)
  | [] => none
  | c :: rest =>
    if c = ':' ∨ c = ')' then
      if seen.head? = some '-' then none
      else some ((flags, seen.isEmpty), c :: rest)
    else if seen.contains c then none
    else if c = '-' then readFlags flags (c :: seen) rest
    else do
      let flags ← flags.set? c (!seen.contains '-')
      readFlags flags (c :: seen) rest

def isNameChar (first : Bool) (c : Char) : Bool :=
  c == '_' || alphabetic.contains c ||
    (!first && (c == '.' || c == '[' || c == ']' || numbers.contains c))

def readGroupName (first : Bool) : List Char → Option ((List Char) × List Char)
  | [] => none
  | c :: rest =>
    if c = '>' then if first then none else some ([], rest)
    else if isNameChar first c then do
      let (name, rest) ← readGroupName false rest
      return (c :: name, rest)
    else none

def openNamed (st : ParserState) (s : List Char) : Step := do
  let (name, rest) ← readGroupName true s
  if st.names.contains name then none
  else return ({ st.enter st.flags true with names := name :: st.names }, rest)

def openGroup (st : ParserState) (s : List Char) : Step :=
  match st.flags.skip s with
  | '?' :: '=' :: _ => none
  | '?' :: '!' :: _ => none
  | '?' :: '<' :: '=' :: _ => none
  | '?' :: '<' :: '!' :: _ => none
  | '?' :: 'P' :: '<' :: rest => openNamed st rest
  | '?' :: '<' :: rest => openNamed st rest
  | '?' :: rest => do
    let ((flags, unset), rest) ← readFlags st.flags [] rest
    match rest with
    | ':' :: rest => some (st.enter flags false, rest)
    | _ :: rest =>
      if unset then none
      else some ({ st.push ⟨.empty, 0, false⟩ with flags }, rest)
    | [] => none
  | rest => some (st.enter st.flags true, rest)

def atomExpr? (f : Flags) : Atom → Option Expr
  | .char c byte =>
    if !f.unicode && byte && c.toNat ≥ 0x80 then none else some (f.letter c)
  | .set set => some (.chars set)
  | .look l => some (.look l)

def step (st : ParserState) (c : Char) (rest : List Char) : Step :=
  match c with
  | '(' => openGroup st rest
  | ')' => st.leave?.map (·, rest)
  | '|' => some ({ st with body := st.body.nextBranch }, rest)
  | '[' => do
    let ((set, depth), rest) ← readBracket st.flags rest
    return (st.push ⟨.chars set, depth, true⟩, rest)
  | '?' => (st.repeat? 0 (some 1)).map (·, dropLazyMark rest)
  | '*' => (st.repeat? 0 none).map (·, dropLazyMark rest)
  | '+' => (st.repeat? 1 none).map (·, dropLazyMark rest)
  | '\x7b' => do
    let ((min, max), rest) ← readCounts st.flags rest
    return (← st.repeat? min max, rest)
  | '\x5c' => do
    let (atom, rest) ← readEscape st.flags rest
    return (st.push ⟨← atomExpr? st.flags atom, 0, true⟩, rest)
  | '.' => st.flags.dot.map fun set => (st.push ⟨.chars set, 0, true⟩, rest)
  | '^' => some (st.push ⟨.look st.flags.lineStart, 0, true⟩, rest)
  | '$' => some (st.push ⟨.look st.flags.lineStop, 0, true⟩, rest)
  | c => some (st.push ⟨st.flags.letter c, 0, true⟩, rest)

def steps : Nat → ParserState → List Char → Option ParserState
  | 0, _, _ => none
  | fuel + 1, st, s =>
    match st.flags.skip s with
    | [] => some st
    | c :: rest => do
      let (st, rest) ← step st c rest
      steps fuel st rest

def maxNesting : Nat := 250

def parse? (text : List Char) : Option Expr := do
  let st ← steps (text.length + 1) {} text
  if st.frames.isEmpty then
    let (expr, depth) := st.body.finish
    if depth ≤ maxNesting then some expr else none
  else none

end ClassBatch.Regex
