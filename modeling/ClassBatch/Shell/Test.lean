import ClassBatch.Shell.Session
import ClassBatch.Shell.Arithmetic

/-! Conditions, as `test` and `[` decide them. -/

namespace ClassBatch.Shell

open Files

namespace Test

def isExecutable : Node → Bool
  | .file _ executable => executable
  | .dir .. => true

def nonEmpty : Node → Bool
  | .file content _ => !content.isEmpty
  | .dir .. => true

def unary? (s : Session) (operator text : String) : Option Bool :=
  let node := (s.disk.node text).toOption
  match operator with
  | "-n" => some (!text.isEmpty)
  | "-z" => some text.isEmpty
  | "-e" | "-r" | "-w" | "-O" | "-G" => some node.isSome
  | "-f" => some (node.any fun n => !n.isDir)
  | "-d" => some (node.any Node.isDir)
  | "-s" => some (node.any nonEmpty)
  | "-x" => some (node.any isExecutable)
  | "-h" | "-L" | "-p" | "-S" | "-b" | "-c" | "-t" | "-u" | "-g" | "-k" => some false
  | _ => none

def integer? (text : String) : Option Int :=
  let (negative, digits) := match Text.trimBoth (· = ' ') text.toList with
    | '-' :: rest => (true, rest)
    | '+' :: rest => (false, rest)
    | chars => (false, chars)
  let value := Arithmetic.readDigits 10 digits
  if digits.isEmpty || !digits.all Char.isDigit || value > Int64.maxValue.toInt then none
  else some (if negative then -value else value)

def number (text : String) : Except String Int :=
  match integer? text with
  | some n => .ok n
  | none => .error ("Illegal number: " ++ text)

def binary? (operator left right : String) : Option (Except String Bool) :=
  let compare (test : Int → Int → Bool) : Option (Except String Bool) :=
    some (do return test (← number left) (← number right))
  match operator with
  | "=" => some (.ok (left = right))
  | "!=" => some (.ok (left ≠ right))
  | "<" => some (.ok (left < right))
  | ">" => some (.ok (right < left))
  | "-eq" => compare (· == ·)
  | "-ne" => compare (· != ·)
  | "-lt" => compare (· < ·)
  | "-le" => compare (· ≤ ·)
  | "-gt" => compare (· > ·)
  | "-ge" => compare (· ≥ ·)
  | "-nt" | "-ot" => some (.ok false)
  | _ => none

def isBinary (operator : String) : Bool :=
  (binary? operator "" "").isSome

def isOperand : List String → Bool
  | [] => true
  | [_] => false
  | next :: _ => isBinary next

inductive Goal
  | any
  | all
  | one

def decide : Nat → Session → Goal → List String → Except String (Bool × List String)
  | 0, _, _, _ => .ok (false, [])
  | fuel + 1, s, .any, args => do
    let (first, rest) ← decide fuel s .all args
    match rest with
    | "-o" :: rest =>
      let (second, rest) ← decide fuel s .any rest
      return (first || second, rest)
    | rest => return (first, rest)
  | fuel + 1, s, .all, args => do
    let (first, rest) ← decide fuel s .one args
    match rest with
    | "-a" :: rest =>
      let (second, rest) ← decide fuel s .all rest
      return (first && second, rest)
    | rest => return (first, rest)
  | fuel + 1, s, .one, args => do
    match args with
    | [] => return (false, [])
    | "!" :: rest =>
      let (b, rest) ← decide fuel s .one rest
      return (!b, rest)
    | ["("] => return (true, [])
    | "(" :: ")" :: rest => return (false, rest)
    | "(" :: rest =>
      let (b, rest) ← decide fuel s .any rest
      match rest with
      | ")" :: rest => return (b, rest)
      | _ => .error "closing paren expected"
    | first :: rest =>
      match if isOperand rest then none else unary? s first (rest.headD "") with
      | some b => return (b, rest.tail)
      | none => two first rest
where
  two (left : String) : List String → Except String (Bool × List String)
    | operator :: rest =>
      match binary? operator left (rest.headD "") with
      | some answer =>
        if rest.isEmpty then .error (operator ++ ": argument expected")
        else answer.map fun b => (b, rest.tail)
      | none => .ok (!left.isEmpty, operator :: rest)
    | [] => .ok (!left.isEmpty, [])

def holds (s : Session) (args : List String) : Except String Bool := do
  let (b, rest) ← match args with
    | [left, operator, right] =>
      if isBinary operator then decide.two left [operator, right]
      else decide (3 * args.length + 3) s .any args
    | args => decide (3 * args.length + 3) s .any args
  match rest with
  | [] => return b
  | rest => .error ((args[args.length - rest.length - 1]?).getD "" ++ ": unexpected operator")

def run (name : String) (args : List String) (s : Session) : Session :=
  match holds s args with
  | .ok b => s.done (if b then 0 else 1)
  | .error why => (s.blame (name ++ ": " ++ why)).done 2

def bracket (args : List String) (s : Session) : Session :=
  if args.getLast? = some "]" then run "[" args.dropLast s
  else (s.blame "[: missing ]").done 2

end Test

end ClassBatch.Shell
