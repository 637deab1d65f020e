import ClassBatch.Shell.LineExpression
import ClassBatch.Shell.Test
import ClassBatch.Shell.Utilities

/-! The programs of the system that work on lines and texts. -/

namespace ClassBatch.Shell

open Files
open Text (Bytes)

namespace Utility

structure Extent where
  count : Nat := 10
  bytes : Bool := false
  sign : Option Char := none

def readExtent (text : String) (e : Extent) : Extent :=
  match text.toList with
  | '+' :: digits => { e with count := (Format.readCount digits).1, sign := some '+' }
  | '-' :: digits => { e with count := (Format.readCount digits).1, sign := some '-' }
  | digits => { e with count := (Format.readCount digits).1 }

def readExtents : List String → Extent → Extent × List String
  | [], e => (e, [])
  | [arg], e => readOne arg [] e
  | "-n" :: text :: rest, e => readExtents rest (readExtent text e)
  | "-c" :: text :: rest, e => readExtents rest (readExtent text { e with bytes := true })
  | arg :: rest, e =>
    match arg.toList with
    | '-' :: _ => readOne arg rest e
    | _ => (e, arg :: rest)
where
  readOne (arg : String) (rest : List String) (e : Extent) : Extent × List String :=
    match arg.toList with
    | '-' :: 'n' :: text => (readExtent (String.ofList text) e, rest)
    | '-' :: 'c' :: text => (readExtent (String.ofList text) { e with bytes := true }, rest)
    | '-' :: c :: text =>
      if c.isDigit then ({ e with count := (Format.readCount (c :: text)).1 }, rest)
      else (e, rest)
    | _ => (e, arg :: rest)

def units (e : Extent) (data : Bytes) : List Bytes :=
  if e.bytes then data.map ([·])
  else
    let ends := data.getLast? = some 10
    let ls := lines data
    match ls.reverse with
    | [] => []
    | last :: before =>
      (before.reverse.map (· ++ [10])) ++ [if ends then last ++ [10] else last]

def head (args : List String) (s : Session) : Session :=
  let (e, paths) := readExtents args {}
  let (data, s) := contents "head" s paths
  let all := units e data
  s.write 1 (all.take (if e.sign = some '-' then all.length - e.count else e.count)).flatten

def tail (args : List String) (s : Session) : Session :=
  let (e, paths) := readExtents args {}
  let (data, s) := contents "tail" s paths
  let all := units e data
  s.write 1 (all.drop (if e.sign = some '+' then e.count - 1 else all.length - e.count)).flatten

def lessBytes : Bytes → Bytes → Bool
  | [], [] => false
  | [], _ :: _ => true
  | _ :: _, [] => false
  | a :: as, b :: bs => a < b || (a = b && lessBytes as bs)

def leadingNumber (line : Bytes) : Int :=
  let chars := (line.dropWhile (· = 32)).map fun b => Char.ofNat b.toNat
  match chars with
  | '-' :: rest => -((Format.readCount rest).1 : Int)
  | chars => (Format.readCount chars).1

def dedupe : List Bytes → List Bytes
  | a :: b :: rest => if a = b then dedupe (b :: rest) else a :: dedupe (b :: rest)
  | ls => ls

def sort (args : List String) (s : Session) : Session :=
  let (options, paths) := splitOptions args
  let (data, s) := contents "sort" s paths
  let before (a b : Bytes) :=
    if options.contains 'n' then
      let (m, n) := (leadingNumber a, leadingNumber b)
      m < n || (m = n && !lessBytes b a)
    else !lessBytes b a
  let sorted := (lines data).mergeSort (if options.contains 'r' then fun a b => before b a else before)
  s.write 1 (unlines (if options.contains 'u' then dedupe sorted else sorted))

def runsOf : List Bytes → List (Nat × Bytes)
  | [] => []
  | line :: rest =>
    match runsOf rest with
    | (n, other) :: more =>
      if line = other then (n + 1, line) :: more else (1, line) :: (n, other) :: more
    | [] => [(1, line)]

def padLeft (width : Nat) (text : String) : String :=
  String.ofList (List.replicate (width - text.length) ' ') ++ text

def uniq (args : List String) (s : Session) : Session :=
  let (options, paths) := splitOptions args
  let (data, s) := contents "uniq" s paths
  let wanted := (runsOf (lines data)).filter fun (n, _) =>
    (!options.contains 'd' || n > 1) && (!options.contains 'u' || n = 1)
  s.write 1 (unlines (wanted.map fun (n, line) =>
    if options.contains 'c' then Text.encode (padLeft 7 (toString n) ++ " ") ++ line else line))

def words (data : Bytes) : Nat :=
  (data.foldl (fun (count, inside) b =>
    let blank := b = 32 || (9 ≤ b && b ≤ 13)
    if blank then (count, false) else (if inside then count else count + 1, true))
    ((0, false) : Nat × Bool)).1

def countsOf (options : List Char) (data : Bytes) : List Nat :=
  let wanted (c : Char) := options.isEmpty || options.contains c
  (if wanted 'l' then [data.count 10] else []) ++ (if wanted 'w' then [words data] else []) ++
    (if options.contains 'm' then [(Text.decodeLossy data).length] else []) ++
    (if wanted 'c' then [data.length] else [])

def wc (args : List String) (s : Session) : Session :=
  let (options, paths) := splitOptions args
  match paths with
  | [] =>
    let counts := countsOf options s.input
    let width := if counts.length > 1 then 7 else 1
    { s with input := [] }.say
      (String.intercalate " " (counts.map fun n => padLeft width (toString n)) ++ "\n")
  | paths =>
    let (files, s) := paths.foldl (fun (files, s) path =>
      let before := s.errors.length
      let (data, s) := contents "wc" s [path]
      (if s.errors.length = before then files ++ [(path, data)] else files, s))
      (([] : List (String × Bytes)), s)
    let all := files.flatMap Prod.snd
    let columns := (countsOf options []).length
    let width := if paths.length = 1 && columns = 1 then 1 else (toString all.length).length
    let line (name : String) (counts : List Nat) :=
      String.intercalate " " ((counts.map fun n => padLeft width (toString n)) ++ [name]) ++ "\n"
    let total := (files.map fun f => countsOf options f.2).foldl (List.zipWith (· + ·))
      (List.replicate columns 0)
    s.say (String.join (files.map fun (path, data) => line path (countsOf options data)) ++
      if paths.length > 1 then line "total" total else "")

def readSet : Nat → List Char → List Char
  | 0, _ | _, [] => []
  | fuel + 1, '\x5c' :: c :: rest =>
    let digits := ((c :: rest).take 3).takeWhile Format.isOctal
    if digits.isEmpty then
      ((Format.letter? c).elim c fun b => Char.ofNat b.toNat) :: readSet fuel rest
    else Char.ofNat (Format.octal digits).toNat :: readSet fuel ((c :: rest).drop digits.length)
  | fuel + 1, '[' :: ':' :: rest =>
    let name := rest.takeWhile Char.isAlpha
    match Wildcard.namedRanges.lookup (String.ofList name), rest.drop name.length with
    | some ranges, ':' :: ']' :: rest =>
      ranges.flatMap (fun (a, b) => between a b) ++ readSet fuel rest
    | _, _ => '[' :: ':' :: readSet fuel rest
  | fuel + 1, a :: '-' :: b :: rest => between a b ++ readSet fuel rest
  | fuel + 1, c :: rest => c :: readSet fuel rest
where
  between (a b : Char) : List Char :=
    (List.range (b.toNat + 1 - a.toNat)).map fun n => Char.ofNat (a.toNat + n)

def squeeze (p : Char → Bool) : List Char → List Char
  | a :: b :: rest => if a = b && p a then squeeze p (b :: rest) else a :: squeeze p (b :: rest)
  | s => s

def tr (args : List String) (s : Session) : Session :=
  let (options, sets) := splitOptions args
  let set := readSet (sets.headD "").length (sets.headD "").toList
  let images := readSet (sets.tail.headD "").length (sets.tail.headD "").toList
  let isMember (c : Char) := set.contains c != (options.contains 'c' || options.contains 'C')
  let image (c : Char) : List Char :=
    if !isMember c then [c]
    else if options.contains 'd' then []
    else match (set.idxOf? c).bind (images[·]?) with
      | some image => [image]
      | none => (images.getLast?.getD c).toString.toList
  let text := (Text.decodeLossy s.input).toList.flatMap image
  let text := if options.contains 's' then
      squeeze (fun c => if images.isEmpty then isMember c else images.contains c) text
    else text
  { s with input := [] }.say (String.ofList text)

def readSpans (text : String) : List (Nat × Option Nat) :=
  (Text.splitAll (· = ',') text.toList).map fun part =>
    let (lo, rest) := Format.readCount part
    match rest with
    | '-' :: digits => (lo, if digits.isEmpty then none else some (Format.readCount digits).1)
    | _ => (lo, some lo)

def inSpans (spans : List (Nat × Option Nat)) (n : Nat) : Bool :=
  spans.any fun (lo, hi) => lo ≤ n && hi.all (n ≤ ·)

def optionValue (letter : Char) : List String → Option String × List String
  | [] => (none, [])
  | arg :: rest =>
    match arg.toList with
    | ['-', c] =>
      match rest with
      | value :: rest' =>
        if c = letter then (some value, rest')
        else
          let (found, others) := optionValue letter rest
          (found, arg :: others)
      | [] => (none, [arg])
    | '-' :: c :: value =>
      if c = letter then (some (String.ofList value), rest)
      else
        let (found, others) := optionValue letter rest
        (found, arg :: others)
    | _ =>
      let (found, others) := optionValue letter rest
      (found, arg :: others)

def cut (args : List String) (s : Session) : Session :=
  let (delimiter, args) := optionValue 'd' args
  let (fields, args) := optionValue 'f' args
  let (columns, paths) := optionValue 'c' args
  let (data, s) := contents "cut" s paths
  let between := (delimiter.bind fun d => d.toList.head?).getD '\t'
  let chosen (spans : List (Nat × Option Nat)) {α : Type} (parts : List α) : List α :=
    (parts.zipIdx 1).filterMap fun (part, n) => if inSpans spans n then some part else none
  let line (text : List Char) : List Char :=
    match fields, columns with
    | some list, _ =>
      if text.contains between then
        (String.intercalate between.toString
          ((chosen (readSpans list) (Text.splitAll (· = between) text)).map String.ofList)).toList
      else text
    | none, some list => chosen (readSpans list) text
    | none, none => text
  s.write 1 (unlines ((lines data).map fun l =>
    Text.encode (String.ofList (line (Text.decodeLossy l).toList))))

def tee (args : List String) (s : Session) : Session :=
  let (options, paths) := splitOptions args
  let data := s.input
  let s := paths.foldl (fun s path =>
    attempt s (fun e => "tee: " ++ path ++ ": " ++ reason e)
      (if options.contains 'a' then s.disk.append path data else s.disk.write path data)) s
  { s with input := [] }.write 1 data

def printf (args : List String) (s : Session) : Session :=
  let (data, faults, status) := Format.printf args
  (faults.foldl (fun s why => s.blame ("printf: " ++ why)) (s.write 1 data)).done status

def seq (args : List String) (s : Session) : Session :=
  let numbers := args.filterMap Test.integer?
  let (first, step, last) : Int × Int × Int := match numbers with
    | [last] => (1, 1, last)
    | [first, last] => (first, 1, last)
    | [first, step, last] => (first, step, last)
    | _ => (1, 1, 0)
  let count := if step = 0 then 0 else ((last - first) / step + 1).toNat
  s.say (String.join ((List.range count).map fun (n : Nat) => toString (first + step * (n : Int)) ++ "\n"))

structure Sieve where
  options : List Char
  expressions : List String

def readSieve : Nat → List String → Sieve → Sieve × List String
  | 0, rest, f => (f, rest)
  | _, [], f => (f, [])
  | fuel + 1, "-e" :: pattern :: rest, f =>
    readSieve fuel rest { f with expressions := f.expressions ++ [pattern] }
  | _, "--" :: rest, f => (f, rest)
  | fuel + 1, arg :: rest, f =>
    match arg.toList with
    | '-' :: c :: letters => readSieve fuel rest { f with options := f.options ++ c :: letters }
    | _ =>
      let (f, others) := readSieve fuel rest f
      (f, arg :: others)

def folded (options : List Char) (s : List Char) : List Char :=
  if options.contains 'i' then s.map Char.toLower else s

def Sieve.compiled (f : Sieve) : Option (List LineExpression) :=
  f.expressions.mapM fun text =>
    let chars := folded f.options text.toList
    let inner := if f.options.contains 'F' then
        some (chars.foldr (fun c e => .seq (.char c) e) LineExpression.empty)
      else LineExpression.parse? (f.options.contains 'E') chars
    inner.map fun e => if f.options.contains 'x' then .seq .start (.seq (.group 0 e) .stop) else e

def matchesIn (e : LineExpression) : Nat → Bool → List Char → List (List Char)
  | 0, _, _ => []
  | fuel + 1, atStart, s =>
    match e.find atStart s with
    | none => []
    | some (_, here, q) =>
      let whole := here.take (here.length - q.rest.length)
      if whole.isEmpty then matchesIn e fuel false (q.rest.drop 1)
      else whole :: matchesIn e fuel false q.rest

def grep (args : List String) (s : Session) : Session :=
  let (f, paths) := readSieve args.length args ⟨[], []⟩
  let (f, paths) := if f.expressions.isEmpty then
      ({ f with expressions := paths.take 1 }, paths.drop 1)
    else (f, paths)
  match f.compiled with
  | none => (s.complain "grep: Invalid regular expression").done 2
  | some expressions =>
    let has (c : Char) := f.options.contains c
    let keep (line : List Char) := expressions.any (·.occursIn (folded f.options line)) != has 'v'
    let named := (paths.length > 1 || has 'H') && !has 'h'
    let (found, s) := (if paths.isEmpty then ["-"] else paths).foldl (fun (any, s) path =>
      let (data, s) := contents "grep" s [path]
      let all := (lines data).map fun line => (Text.decodeLossy line).toList
      let kept := (all.zipIdx 1).filter fun (line, _) => keep line
      let label := if named then (if path = "-" then "(standard input)" else path) ++ ":" else ""
      let tell (text : String) (n : Nat) :=
        label ++ (if has 'n' then toString n ++ ":" else "") ++ text ++ "\n"
      let told :=
        if has 'q' then ""
        else if has 'l' then if kept.isEmpty then "" else path ++ "\n"
        else if has 'c' then label ++ toString kept.length ++ "\n"
        else if has 'o' then
          String.join (kept.flatMap fun (line, n) => expressions.flatMap fun e =>
            (matchesIn e (line.length + 1) true line).map fun part => tell (String.ofList part) n)
        else String.join (kept.map fun (line, n) => tell (String.ofList line) n)
      (any || !kept.isEmpty, s.say told)) (false, s)
    if found then s else s.done (if s.status = 0 then 1 else 2)

def combine (left operator right : String) : Option String :=
  let truth (b : Bool) : String := if b then "1" else "0"
  match Test.integer? left, Test.integer? right with
  | some a, some b =>
    match operator with
    | "+" => some (toString (a + b))
    | "-" => some (toString (a - b))
    | "*" => some (toString (a * b))
    | "/" => if b = 0 then none else some (toString (a.tdiv b))
    | "%" => if b = 0 then none else some (toString (a.tmod b))
    | "=" => some (truth (a = b))
    | "!=" => some (truth (a ≠ b))
    | "<" => some (truth (a < b))
    | "<=" => some (truth (a ≤ b))
    | ">" => some (truth (a > b))
    | ">=" => some (truth (a ≥ b))
    | _ => none
  | _, _ =>
    match operator with
    | "=" => some (truth (left = right))
    | "!=" => some (truth (left ≠ right))
    | "<" => some (truth (left < right))
    | ">" => some (truth (right < left))
    | _ => none

def expr (args : List String) (s : Session) : Session :=
  let value := match args with
    | [text] => some text
    | ["length", text] => some (toString text.length)
    | [left, operator, right] => combine left operator right
    | _ => none
  match value with
  | some text => (s.say (text ++ "\n")).done (if text.isEmpty || text = "0" then 1 else 0)
  | none => (s.complain "expr: syntax error").done 2

end Utility

end ClassBatch.Shell
