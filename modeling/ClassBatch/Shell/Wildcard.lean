/-! Patterns with wild cards, as scripts use them for names and texts. -/

namespace ClassBatch.Shell

inductive Wildcard
  | literal (c : Char)
  | one
  | many
  | oneOf (negated : Bool) (ranges : List (Char × Char))
deriving DecidableEq, Repr

namespace Wildcard

def namedRanges : List (String × List (Char × Char)) :=
  [("digit", [('0', '9')]), ("lower", [('a', 'z')]), ("upper", [('A', 'Z')]),
    ("alpha", [('a', 'z'), ('A', 'Z')]), ("alnum", [('a', 'z'), ('A', 'Z'), ('0', '9')]),
    ("xdigit", [('a', 'f'), ('A', 'F'), ('0', '9')]), ("blank", [(' ', ' '), ('\t', '\t')]),
    ("space", [(' ', ' '), ('\t', '\r')]), ("print", [(' ', '~')]), ("graph", [('!', '~')]),
    ("punct", [('!', '/'), (':', '@'), ('[', '\x60'), ('\x7b', '~')]),
    ("cntrl", [('\x00', '\x1f'), ('\x7f', '\x7f')])]

def readRanges : Nat → List (Char × Bool) → Option (List (Char × Char) × List (Char × Bool))
  | 0, _ | _, [] => none
  | _, (']', false) :: rest => some ([], rest)
  | fuel + 1, ('[', false) :: (':', false) :: rest =>
    let name := (rest.map Prod.fst).takeWhile Char.isAlpha
    match namedRanges.lookup (String.ofList name), rest.drop name.length with
    | some named, (':', _) :: (']', _) :: rest =>
      (readRanges fuel rest).map fun (ranges, rest) => (named ++ ranges, rest)
    | _, _ =>
      (readRanges fuel rest).map fun (ranges, rest) => (('[', '[') :: (':', ':') :: ranges, rest)
  | fuel + 1, (lo, _) :: ('-', false) :: (hi, quoted) :: rest =>
    if hi = ']' && !quoted then
      (readRanges fuel ((hi, quoted) :: rest)).map fun (ranges, rest) =>
        ((lo, lo) :: ('-', '-') :: ranges, rest)
    else (readRanges fuel rest).map fun (ranges, rest) => ((lo, hi) :: ranges, rest)
  | fuel + 1, (c, _) :: rest =>
    (readRanges fuel rest).map fun (ranges, rest) => ((c, c) :: ranges, rest)

def readMembers (s : List (Char × Bool)) : Option (List (Char × Char) × List (Char × Bool)) :=
  match s with
  | (']', false) :: rest =>
    (readRanges s.length rest).map fun (ranges, rest) => ((']', ']') :: ranges, rest)
  | s => readRanges (s.length + 1) s

def readSet : List (Char × Bool) → Option (Wildcard × List (Char × Bool))
  | ('!', false) :: rest =>
    (readMembers rest).map fun (ranges, rest) => (.oneOf true ranges, rest)
  | s => (readMembers s).map fun (ranges, rest) => (.oneOf false ranges, rest)

def read : Nat → List (Char × Bool) → List Wildcard
  | 0, _ => []
  | _ + 1, [] => []
  | fuel + 1, (c, quoted) :: rest =>
    if quoted then .literal c :: read fuel rest
    else if c = '*' then .many :: read fuel rest
    else if c = '?' then .one :: read fuel rest
    else if c = '[' then
      match readSet rest with
      | some (set, rest) => set :: read fuel rest
      | none => .literal c :: read fuel rest
    else .literal c :: read fuel rest

def ofMarked (s : List (Char × Bool)) : List Wildcard :=
  read s.length s

def ofText (s : List Char) : List Wildcard :=
  ofMarked (s.map (·, false))

def inRanges (ranges : List (Char × Char)) (c : Char) : Bool :=
  ranges.any fun (lo, hi) => lo ≤ c && c ≤ hi

def accepts : Wildcard → Char → Bool
  | literal d, c => c = d
  | one, _ | many, _ => true
  | oneOf negated ranges, c => negated != inRanges ranges c

def matchesAll : List Wildcard → List Char → Bool
  | [], s => s.isEmpty
  | .many :: rest, [] => matchesAll rest []
  | .many :: rest, c :: s => matchesAll rest (c :: s) || matchesAll (.many :: rest) s
  | _ :: _, [] => false
  | w :: rest, c :: s => w.accepts c && matchesAll rest s
termination_by pattern s => (pattern.length, s.length)

def cutStart (pattern : List Wildcard) (longest : Bool) (s : List Char) : List Char :=
  let lengths := List.range (s.length + 1)
  let lengths := if longest then lengths.reverse else lengths
  match lengths.find? fun n => matchesAll pattern (s.take n) with
  | some n => s.drop n
  | none => s

def cutEnd (pattern : List Wildcard) (longest : Bool) (s : List Char) : List Char :=
  let lengths := List.range (s.length + 1)
  let lengths := if longest then lengths else lengths.reverse
  match lengths.find? fun n => matchesAll pattern (s.drop n) with
  | some n => s.take n
  | none => s

def isWild (s : List (Char × Bool)) : Bool :=
  s.any fun (c, quoted) => !quoted && (c = '*' || c = '?' || c = '[')

end Wildcard

end ClassBatch.Shell
