import ClassBatch.Regex.Flags
import ClassBatch.Source.Escape

/-! Escapes in regular expressions, read behind their backslash. -/

namespace ClassBatch.Regex

open Unicode

inductive Atom
  | char (c : Char) (byte : Bool)
  | set (s : CharSet)
  | look (l : Look)

def codeToChar? (n : Nat) : Option Char :=
  if n.isValidChar then some (Char.ofNat n) else none

def readDigits (f : Flags) : Nat → Nat → List Char → Option (Nat × List Char)
  | 0, value, s => some (value, s)
  | _ + 1, _, [] => none
  | count + 1, value, c :: s => do
    let digit ← Source.hexDigit? c
    readDigits f count (value * 16 + digit) (f.skip s)

def readBraced (f : Flags) (empty : Bool) (value : Nat) : Nat → List Char → Option (Nat × List Char)
  | 0, _ => none
  | _ + 1, [] => none
  | fuel + 1, c :: s =>
    if c = '\x7d' then if empty then none else some (value, f.skip s)
    else do
      let digit ← Source.hexDigit? c
      readBraced f false (min (value * 16 + digit) 0x100000000) fuel (f.skip s)

def readHex (f : Flags) (kind : Char) (s : List Char) : Option (Atom × List Char) := do
  let width := if kind = 'x' then 2 else if kind = 'u' then 4 else 8
  match f.skip s with
  | '\x7b' :: rest =>
    let (code, rest) ← readBraced f true 0 (rest.length + 1) (f.skip rest)
    return (.char (← codeToChar? code) false, rest)
  | rest =>
    let (code, rest) ← readDigits f width 0 rest
    return (.char (← codeToChar? code) (width == 2), rest)

def readName (f : Flags) : Nat → List Char → Option ((List Char) × List Char)
  | 0, _ => none
  | _ + 1, [] => none
  | fuel + 1, c :: s =>
    if c = '\x7d' then some ([], s)
    else do
      let (name, rest) ← readName f fuel (f.skip s)
      return (c :: name, rest)

def splitAt? (mark : List Char) : List Char → Option (List Char × List Char)
  | [] => none
  | c :: cs =>
    match Text.afterStart? mark (c :: cs) with
    | some rest => some ([], rest)
    | none => (splitAt? mark cs).map fun (before, rest) => (c :: before, rest)

def propertySet? (name : List Char) : Option CharSet :=
  match splitAt? ['!', '='] name with
  | some (property, value) => valued? property value
  | none =>
    match splitAt? [':'] name with
    | some (property, value) => valued? property value
    | none =>
      match splitAt? ['='] name with
      | some (property, value) => valued? property value
      | none => named? name

def readProperty (f : Flags) (negated : Bool) (s : List Char) : Option (Atom × List Char) := do
  let (name, rest) ← match f.skip s with
    | [] => none
    | '\x7b' :: rest =>
      let (name, rest) ← readName f (rest.length + 1) (f.skip rest)
      some (propertySet? name, rest)
    | c :: rest => if c = '\x5c' then none else some (named? [c], f.skip rest)
  if f.unicode then
    return (.set (← f.foldAndNegate negated (← name)), rest)
  else none

def readEdgeName (f : Flags) : Nat → List Char → List Char × List Char
  | 0, s => ([], s)
  | _ + 1, [] => ([], [])
  | fuel + 1, c :: s =>
    if c.isAlpha || c == '-' then
      let (name, rest) := readEdgeName f fuel (f.skip s)
      (c :: name, rest)
    else ([], c :: s)

def readEdge (f : Flags) (s : List Char) : Option (Atom × List Char) :=
  match s with
  | '\x7b' :: inside =>
    match f.skip inside with
    | [] => none
    | c :: cs =>
      if c.isAlpha || c == '-' then
        match readEdgeName f (cs.length + 1) (c :: cs) with
        | (name, '\x7d' :: rest) =>
          match String.ofList name with
          | "start" => some (.look (.wordStart f.unicode), rest)
          | "end" => some (.look (.wordStop f.unicode), rest)
          | "start-half" => some (.look (.wordStartHalf f.unicode), rest)
          | "end-half" => some (.look (.wordStopHalf f.unicode), rest)
          | _ => none
        | _ => none
      else some (.look (.wordEdge f.unicode), s)
  | _ => some (.look (.wordEdge f.unicode), s)

def isAsciiAlphanumeric (c : Char) : Bool :=
  c.isAlpha || c.isDigit

def readEscape (f : Flags) : List Char → Option (Atom × List Char)
  | [] => none
  | c :: rest =>
    match c with
    | 'x' | 'u' | 'U' => readHex f c rest
    | 'p' => readProperty f false rest
    | 'P' => readProperty f true rest
    | 'd' | 's' | 'w' => some (.set (f.shorthand c), rest)
    | 'D' | 'S' | 'W' => (f.negatedShorthand c.toLower).map fun set => (.set set, rest)
    | 'a' => some (.char '\x07' false, rest)
    | 'f' => some (.char '\x0c' false, rest)
    | 't' => some (.char '\x09' false, rest)
    | 'n' => some (.char '\x0a' false, rest)
    | 'r' => some (.char '\x0d' false, rest)
    | 'v' => some (.char '\x0b' false, rest)
    | 'A' => some (.look .start, rest)
    | 'z' => some (.look .stop, rest)
    | 'b' => readEdge f rest
    | 'B' => some (.look (.wordInside f.unicode), rest)
    | '<' => some (.look (.wordStart f.unicode), rest)
    | '>' => some (.look (.wordStop f.unicode), rest)
    | c =>
      if c.toNat < 0x80 && !isAsciiAlphanumeric c then some (.char c false, rest) else none

end ClassBatch.Regex
