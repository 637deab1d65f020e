import ClassBatch.Shell.Lines

/-! Changing texts line by line, as `sed` does. -/

namespace ClassBatch.Shell

open Text (Bytes)

namespace Editing

inductive Address
  | line (n : Nat)
  | last
  | matching (e : LineExpression)

inductive Edit
  | replace (e : LineExpression) (image : List Char) (first : Nat) (all shown : Bool)
  | delete
  | print
  | quit

structure Rule where
  start : Option Address
  stop : Option Address
  negated : Bool
  edit : Edit

def readUpTo (sign : Char) : List Char → Option (List Char × List Char)
  | [] => none
  | '\x5c' :: c :: rest =>
    (readUpTo sign rest).map fun (text, rest) =>
      (if c = sign then c :: text else '\x5c' :: c :: text, rest)
  | c :: rest =>
    if c = sign then some ([], rest)
    else (readUpTo sign rest).map fun (text, rest) => (c :: text, rest)

def readAddress (extended : Bool) : List Char → Option (Option Address × List Char)
  | '$' :: rest => some (some .last, rest)
  | '/' :: rest => do
    let (text, rest) ← readUpTo '/' rest
    return (some (.matching (← LineExpression.parse? extended text)), rest)
  | s =>
    let (n, rest) := Format.readCount s
    some (if rest.length = s.length then none else some (.line n), rest)

def skipBlanks (s : List Char) : List Char :=
  s.dropWhile (· = ' ')

def readEdit (extended : Bool) : List Char → Option (Edit × List Char)
  | 'd' :: rest => some (.delete, rest)
  | 'p' :: rest => some (.print, rest)
  | 'q' :: rest => some (.quit, rest)
  | 's' :: sign :: rest => do
    let (text, rest) ← readUpTo sign rest
    let (image, rest) ← readUpTo sign rest
    let flags := rest.takeWhile Char.isAlphanum
    let number := (Format.readCount (flags.filter Char.isDigit)).1
    let e ← LineExpression.parse? extended text
    return (.replace e image (number - 1) (flags.contains 'g') (flags.contains 'p'),
      rest.drop flags.length)
  | _ => none

def readRules (extended : Bool) : Nat → List Char → Option (List Rule)
  | 0, _ => none
  | fuel + 1, s =>
    match s.dropWhile fun c => c = ' ' || c = ';' || c = '\n' with
    | [] => some []
    | s => do
      let (start, s) ← readAddress extended s
      let (stop, s) ← match s with
        | ',' :: s => readAddress extended s
        | s => some (none, s)
      let (negated, s) := match skipBlanks s with
        | '!' :: s => (true, skipBlanks s)
        | s => (false, s)
      let (edit, s) ← readEdit extended s
      match skipBlanks s with
      | [] => return [⟨start, stop, negated, edit⟩]
      | ';' :: s | '\n' :: s =>
        return ⟨start, stop, negated, edit⟩ :: (← readRules extended fuel s)
      | _ => none

def Address.holds (line : List Char) (number : Nat) (isLast : Bool) : Address → Bool
  | .line n => n = number
  | .last => isLast
  | .matching e => e.occursIn line

structure Line where
  text : List Char
  number : Nat
  isLast : Bool
  shown : List (List Char) := []
  deleted : Bool := false
  quits : Bool := false
  inside : List Nat

def Line.selected (l : Line) (rule : Rule) (place : Nat) : Bool × List Nat :=
  let holds (a : Address) := a.holds l.text l.number l.isLast
  let others := l.inside.filter (· ≠ place)
  match rule.start, rule.stop with
  | none, _ => (true, l.inside)
  | some a, none => (holds a, l.inside)
  | some a, some b =>
    let past : Bool := match b with
      | .line n => n ≤ l.number
      | _ => false
    if l.inside.contains place then (true, if holds b || past then others else l.inside)
    else if holds a then (true, if past then others else place :: others)
    else (false, others)

def Line.apply (l : Line) (rule : Rule) (place : Nat) : Line :=
  let (selected, inside) := l.selected rule place
  let l := { l with inside }
  if l.deleted || l.quits || selected = rule.negated then l
  else match rule.edit with
    | .delete => { l with deleted := true }
    | .print => { l with shown := l.shown ++ [l.text] }
    | .quit => { l with quits := true }
    | .replace e image first all shown =>
      let (text, found) := e.replace image all (l.text.length + 2) first true false l.text
      { l with text, shown := if found && shown then l.shown ++ [text] else l.shown }

def edited (rules : List Rule) (quiet : Bool) : Nat → List Nat → List (List Char) →
    List (List Char)
  | _, _, [] => []
  | number, inside, text :: rest =>
    let l := rules.zipIdx.foldl (fun (l : Line) (rule, place) => l.apply rule place)
      { text, number, isLast := rest.isEmpty, inside }
    l.shown ++ (if quiet || l.deleted then [] else [l.text]) ++
      if l.quits then [] else edited rules quiet (number + 1) l.inside rest

end Editing

namespace Utility

def sed (args : List String) (s : Session) : Session :=
  let (f, paths) := readSieve args.length args ⟨[], []⟩
  let (f, paths) := if f.expressions.isEmpty then
      ({ f with expressions := paths.take 1 }, paths.drop 1)
    else (f, paths)
  let extended := f.options.contains 'E' || f.options.contains 'r'
  let script := (String.intercalate "\n" f.expressions).toList
  match Editing.readRules extended (script.length + 1) script with
  | none => s.fails "sed: -e expression #1, char 0: unknown command"
  | some rules =>
    let change (data : Bytes) : Bytes :=
      let ends := data.isEmpty || data.getLast? = some 10
      let texts := (lines data).map fun line => (Text.decodeLossy line).toList
      let all := unlines ((Editing.edited rules (f.options.contains 'n') 1 [] texts).map fun line =>
        Text.encode (String.ofList line))
      if ends then all else all.dropLast
    if f.options.contains 'i' then
      paths.foldl (fun s path =>
        attempt s (fun e => "sed: can't read " ++ path ++ ": " ++ reason e) do
          s.disk.write path (change (← s.disk.read path))) s
    else
      let unread := paths.filter fun path => path ≠ "-" && (s.disk.read path).toOption.isNone
      let s := unread.foldl (fun s path =>
        (s.complain ("sed: can't read " ++ path ++ ": No such file or directory")).done 2) s
      let rest := paths.filter fun path => !unread.contains path
      let (data, s) := if rest.isEmpty && !paths.isEmpty then ([], s) else contents "sed" s rest
      s.write 1 (change data)

end Utility

end ClassBatch.Shell
