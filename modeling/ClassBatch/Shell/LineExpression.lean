import ClassBatch.Shell.Format
import ClassBatch.Shell.Wildcard

/-! Expressions over lines, in the basic and in the extended way of writing them. -/

namespace ClassBatch.Shell

inductive LineExpression
  | empty
  | start
  | stop
  | any
  | char (c : Char)
  | oneOf (negated : Bool) (ranges : List (Char × Char))
  | group (number : Nat) (e : LineExpression)
  | again (number : Nat)
  | seq (first second : LineExpression)
  | alt (first second : LineExpression)
  | loop (e : LineExpression) (min : Nat) (max : Option Nat)
deriving Repr

namespace LineExpression

def size : LineExpression → Nat
  | group _ e | loop e _ _ => e.size + 1
  | seq a b | alt a b => a.size + b.size + 1
  | _ => 1

structure Place where
  atStart : Bool
  rest : List Char
  groups : List (Nat × List Char) := []

def walk : Nat → LineExpression → (Place → Option Place) → Place → Option Place
  | 0, _, _, _ => none
  | fuel + 1, e, next, p =>
    let take (accepts : Char → Bool) : Option Place :=
      match p.rest with
      | c :: rest => if accepts c then next { p with rest, atStart := false } else none
      | [] => none
    match e with
    | empty => next p
    | start => if p.atStart then next p else none
    | stop => if p.rest.isEmpty then next p else none
    | any => take fun _ => true
    | char c => take (· = c)
    | oneOf negated ranges => take fun c => negated != Wildcard.inRanges ranges c
    | group n e =>
      walk fuel e (fun q =>
        next { q with groups := (n, p.rest.take (p.rest.length - q.rest.length)) :: q.groups }) p
    | again n =>
      match Text.afterStart? ((p.groups.lookup n).getD []) p.rest with
      | some rest => next { p with rest, atStart := p.atStart && rest.length = p.rest.length }
      | none => none
    | seq a b => walk fuel a (walk fuel b next) p
    | alt a b =>
      match walk fuel a next p with
      | some q => some q
      | none => walk fuel b next p
    | loop e min max =>
      let onward (q : Place) : Option Place :=
        if min = 0 && q.rest.length = p.rest.length then none
        else walk fuel (loop e (min - 1) (max.map (· - 1))) next q
      match if max = some 0 then none else walk fuel e onward p with
      | some q => some q
      | none => if min = 0 then next p else none

def matchAt (e : LineExpression) (p : Place) : Option Place :=
  walk ((e.size + 2) * (p.rest.length + 2)) e some p

def find (e : LineExpression) (atStart : Bool) :
    List Char → Option (List Char × List Char × Place)
  | [] => (e.matchAt ⟨atStart, [], []⟩).map fun q => ([], [], q)
  | c :: s =>
    match e.matchAt ⟨atStart, c :: s, []⟩ with
    | some q => some ([], c :: s, q)
    | none => (e.find false s).map fun (before, found) => (c :: before, found)

def occursIn (e : LineExpression) (s : List Char) : Bool :=
  (e.find true s).isSome

inductive Token
  | part (e : LineExpression)
  | sign (c : Char)

def wordRanges : List (Char × Char) :=
  [('a', 'z'), ('A', 'Z'), ('0', '9'), ('_', '_')]

def blankRanges : List (Char × Char) :=
  [(' ', ' '), ('\t', '\r')]

def bracketSigns : List Char :=
  ['(', ')', '\x7b', '\x7d', '+', '?', '|']

def afterBackslash (extended : Bool) (c : Char) : Token :=
  if bracketSigns.contains c then if extended then .part (char c) else .sign c
  else match c with
    | 'n' => .part (char '\n')
    | 't' => .part (char '\t')
    | 'w' => .part (oneOf false wordRanges)
    | 'W' => .part (oneOf true wordRanges)
    | 's' => .part (oneOf false blankRanges)
    | 'S' => .part (oneOf true blankRanges)
    | c =>
      if '1' ≤ c && c ≤ '9' then .part (again (c.toNat - '0'.toNat)) else .part (char c)

def tokens (extended : Bool) : Nat → List Char → Option (List Token)
  | 0, _ => none
  | _, [] => some []
  | fuel + 1, '\x5c' :: c :: rest => (tokens extended fuel rest).map (afterBackslash extended c :: ·)
  | fuel + 1, '[' :: rest =>
    let (negated, rest) := match rest with
      | '^' :: rest => (true, rest)
      | rest => (false, rest)
    match Wildcard.readMembers (rest.map (·, false)) with
    | some (ranges, rest) =>
      (tokens extended fuel (rest.map Prod.fst)).map (.part (oneOf negated ranges) :: ·)
    | none => none
  | fuel + 1, c :: rest =>
    let token := match c with
      | '.' => .part any
      | '*' | '^' | '$' => .sign c
      | c => if extended && bracketSigns.contains c then .sign c else .part (char c)
    (tokens extended fuel rest).map (token :: ·)

def readBounds (s : List Token) : Option ((Nat × Option Nat) × List Token) :=
  let isInner : Token → Bool
    | .part (char _) => true
    | _ => false
  let inner := (s.takeWhile isInner).filterMap fun
    | .part (char c) => some c
    | _ => none
  match s.drop inner.length with
  | .sign '\x7d' :: rest =>
    let (min, more) := Format.readCount inner
    match more with
    | [] => some ((min, some min), rest)
    | [','] => some ((min, none), rest)
    | ',' :: digits => some ((min, some (Format.readCount digits).1), rest)
    | _ => none
  | _ => none

def readLoops : Nat → LineExpression → List Token → Option (LineExpression × List Token)
  | 0, e, s => some (e, s)
  | fuel + 1, e, s =>
    match s with
    | .sign '*' :: rest => readLoops fuel (loop e 0 none) rest
    | .sign '+' :: rest => readLoops fuel (loop e 1 none) rest
    | .sign '?' :: rest => readLoops fuel (loop e 0 (some 1)) rest
    | .sign '\x7b' :: rest =>
      match readBounds rest with
      | some ((min, max), rest) => readLoops fuel (loop e min max) rest
      | none => none
    | s => some (e, s)

def closes : List Token → Bool
  | [] | .sign ')' :: _ | .sign '|' :: _ => true
  | _ => false

inductive Goal
  | alternatives
  | parts (first : Bool)

def read (extended : Bool) : Nat → Goal → Nat → List Token →
    Option (LineExpression × Nat × List Token)
  | 0, _, _, _ => none
  | fuel + 1, .alternatives, groups, s => do
    let (first, groups, s) ← read extended fuel (.parts true) groups s
    match s with
    | .sign '|' :: s =>
      let (second, groups, s) ← read extended fuel .alternatives groups s
      return (alt first second, groups, s)
    | s => return (first, groups, s)
  | fuel + 1, .parts first, groups, s =>
    let go (e : LineExpression) (groups : Nat) (s : List Token) := do
      let (e, s) ← readLoops s.length e s
      let (more, groups, s) ← read extended fuel (.parts false) groups s
      return (seq e more, groups, s)
    if closes s then some (empty, groups, s)
    else match s with
      | .part e :: s => go e groups s
      | .sign '(' :: s => do
        let (e, after, s) ← read extended fuel .alternatives (groups + 1) s
        match s with
        | .sign ')' :: s => go (group (groups + 1) e) after s
        | _ => none
      | .sign '^' :: s =>
        if extended || first then do
          let (more, groups, s) ← read extended fuel (.parts true) groups s
          return (seq start more, groups, s)
        else go (char '^') groups s
      | .sign '$' :: s => go (if extended || closes s then stop else char '$') groups s
      | .sign c :: s => if first then go (char c) groups s else none
      | [] => none

def parse? (extended : Bool) (text : List Char) : Option LineExpression := do
  let tokens ← tokens extended (text.length + 1) text
  match ← read extended (3 * tokens.length + 3) .alternatives 0 tokens with
  | (e, _, []) => return e
  | _ => none

def replacement (whole : List Char) (groups : List (Nat × List Char)) : List Char → List Char
  | '\x5c' :: c :: rest =>
    (if c.isDigit then
      if c = '0' then whole else (groups.lookup (c.toNat - '0'.toNat)).getD []
    else if c = 'n' then ['\n'] else if c = 't' then ['\t'] else [c]) ++
      replacement whole groups rest
  | '&' :: rest => whole ++ replacement whole groups rest
  | c :: rest => c :: replacement whole groups rest
  | [] => []

def replace (e : LineExpression) (image : List Char) (all : Bool) :
    Nat → Nat → Bool → Bool → List Char → List Char × Bool
  | 0, _, _, _, s => (s, false)
  | fuel + 1, first, atStart, behindMatch, s =>
    match e.find atStart s with
    | none => (s, false)
    | some (before, here, q) =>
      let whole := here.take (here.length - q.rest.length)
      let counts := !(behindMatch && before.isEmpty && whole.isEmpty)
      let wanted := counts && first = 0
      let done := before ++ if wanted then replacement whole q.groups image else whole
      if wanted && !all then (done ++ q.rest, true)
      else
        let (step, rest) := if whole.isEmpty then (q.rest.take 1, q.rest.drop 1) else ([], q.rest)
        if whole.isEmpty && q.rest.isEmpty then (done, wanted)
        else
          let left := if counts then first - 1 else first
          let (more, found) := replace e image all fuel left false (!whole.isEmpty) rest
          (done ++ step ++ more, wanted || found)

end LineExpression

end ClassBatch.Shell
