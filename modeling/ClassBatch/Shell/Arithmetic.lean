import ClassBatch.Shell.Session
import ClassBatch.Shell.Words

/-! Arithmetic on whole numbers, as in `$((i + 1))`. -/

namespace ClassBatch.Shell

namespace Arithmetic

inductive Cause
  | noOperand
  | trailing
  | noColon
  | noClose
  | divisionByZero
  | badNumber (text : String)
deriving DecidableEq, Repr

def Cause.message (expression : String) : Cause → String
  | noOperand => within "expecting primary"
  | trailing => within "expecting EOF"
  | noColon => within "expecting ':'"
  | noClose => within "expecting ')'"
  | divisionByZero => within "division by zero"
  | badNumber text => "Illegal number: " ++ text
where
  within (why : String) : String :=
    "arithmetic expression: " ++ why ++ ": \x22" ++ expression ++ "\x22"

inductive Token
  | number (n : Int)
  | name (text : String)
  | sign (text : String)
deriving DecidableEq, Repr

def signs : List String :=
  ["<<=", ">>=", "<=", ">=", "==", "!=", "&&", "||", "<<", ">>", "+=", "-=", "*=", "/=", "%=",
    "&=", "|=", "^=", "+", "-", "*", "/", "%", "<", ">", "=", "!", "~", "&", "|", "^", "(", ")",
    "?", ":"]

def digitValue (c : Char) : Nat :=
  if c.isDigit then c.toNat - '0'.toNat
  else if 'a' ≤ c ∧ c ≤ 'f' then c.toNat - 'a'.toNat + 10
  else if 'A' ≤ c ∧ c ≤ 'F' then c.toNat - 'A'.toNat + 10
  else 99

def readDigits (base : Nat) (s : List Char) : Int :=
  s.foldl (fun n c => base * n + digitValue c) 0

def isDigitOf (base : Nat) (c : Char) : Bool :=
  digitValue c < base

def readNumber (s : List Char) : Int × List Char :=
  match s with
  | '0' :: 'x' :: rest | '0' :: 'X' :: rest =>
    (readDigits 16 (rest.takeWhile (isDigitOf 16)), rest.dropWhile (isDigitOf 16))
  | '0' :: rest => (readDigits 8 (rest.takeWhile (isDigitOf 8)), rest.dropWhile (isDigitOf 8))
  | s => (readDigits 10 (s.takeWhile Char.isDigit), s.dropWhile Char.isDigit)

def tokens : Nat → List Char → Option (List Token)
  | 0, _ => none
  | _ + 1, [] => some []
  | fuel + 1, c :: rest =>
    if c = ' ' || c = '\t' || c = '\n' then tokens fuel rest
    else if c.isDigit then
      let (n, rest) := readNumber (c :: rest)
      (tokens fuel rest).map (.number n :: ·)
    else if Words.isNameStart c then
      let name := c :: rest.takeWhile Words.isNameChar
      (tokens fuel (rest.dropWhile Words.isNameChar)).map (.name (String.ofList name) :: ·)
    else
      match signs.find? fun sign => sign.toList.isPrefixOf (c :: rest) with
      | some sign => (tokens fuel ((c :: rest).drop sign.length)).map (.sign sign :: ·)
      | none => none

def levels : List (List String) :=
  [["||"], ["&&"], ["|"], ["^"], ["&"], ["==", "!="], ["<", ">", "<=", ">="], ["<<", ">>"],
    ["+", "-"], ["*", "/", "%"]]

def ofBool (b : Bool) : Int :=
  if b then 1 else 0

def wrap (n : Int) : Int :=
  n.bmod UInt64.size

def combine (sign : String) (a b : Int) : Except Cause Int :=
  match sign with
  | "||" => .ok (ofBool (a ≠ 0 || b ≠ 0))
  | "&&" => .ok (ofBool (a ≠ 0 && b ≠ 0))
  | "|" => .ok (wrap ((BitVec.ofInt 64 a ||| BitVec.ofInt 64 b).toInt))
  | "^" => .ok (wrap ((BitVec.ofInt 64 a ^^^ BitVec.ofInt 64 b).toInt))
  | "&" => .ok (wrap ((BitVec.ofInt 64 a &&& BitVec.ofInt 64 b).toInt))
  | "==" => .ok (ofBool (a = b))
  | "!=" => .ok (ofBool (a ≠ b))
  | "<" => .ok (ofBool (a < b))
  | ">" => .ok (ofBool (a > b))
  | "<=" => .ok (ofBool (a ≤ b))
  | ">=" => .ok (ofBool (a ≥ b))
  | "<<" => .ok (wrap (a * (1 <<< (b.toNat % 64) : Nat)))
  | ">>" => .ok (a >>> (b.toNat % 64))
  | "+" => .ok (wrap (a + b))
  | "-" => .ok (wrap (a - b))
  | "*" => .ok (wrap (a * b))
  | "/" => if b = 0 then .error .divisionByZero else .ok (a.tdiv b)
  | "%" => if b = 0 then .error .divisionByZero else .ok (a.tmod b)
  | _ => .error .trailing

def valueOf (s : Session) (name : String) : Except Cause Int :=
  let text := s.value name
  let bare := Text.trimBoth (fun c => c = ' ' || c = '\t' || c = '\n') text.toList
  let (sign, digits) := match bare with
    | '-' :: rest => (-1, rest)
    | '+' :: rest => (1, rest)
    | chars => ((1 : Int), chars)
  let (n, rest) := readNumber digits
  if rest.isEmpty && (bare.isEmpty || !digits.isEmpty) then .ok (sign * n)
  else .error (.badNumber text)

def assignments : List (String × Option String) :=
  [("=", none), ("+=", some "+"), ("-=", some "-"), ("*=", some "*"), ("/=", some "/"),
    ("%=", some "%"), ("<<=", some "<<"), (">>=", some ">>"), ("&=", some "&"), ("|=", some "|"),
    ("^=", some "^")]

abbrev Step := Int × List Token × Session

def chain (operators : List String) (next : List Token → Session → Except Cause Step) :
    Nat → Step → Except Cause Step
  | 0, _ => .error .trailing
  | fuel + 1, (a, tokens, s) =>
    match tokens with
    | .sign sign :: rest =>
      if operators.contains sign then do
        let (b, rest, s) ← next rest s
        chain operators next fuel (← combine sign a b, rest, s)
      else .ok (a, tokens, s)
    | _ => .ok (a, tokens, s)

def binary (unary : List Token → Session → Except Cause Step) :
    List (List String) → List Token → Session → Except Cause Step
  | [], tokens, s => unary tokens s
  | operators :: tighter, tokens, s => do
    let first ← binary unary tighter tokens s
    chain operators (binary unary tighter) (tokens.length + 1) first

inductive Goal
  | whole
  | value

def eval : Nat → Goal → List Token → Session → Except Cause Step
  | 0, _, _, _ => .error .trailing
  | fuel + 1, .whole, tokens, s =>
    match tokens with
    | .name name :: .sign sign :: rest =>
      match assignments.lookup sign with
      | some operator => do
        let (b, rest, s) ← eval fuel .whole rest s
        let n ← match operator with
          | some operator => combine operator (← valueOf s name) b
          | none => .ok b
        return (n, rest, s.setVariable name (toString n))
      | none => conditional fuel tokens s
    | _ => conditional fuel tokens s
  | fuel + 1, .value, tokens, s =>
    match tokens with
    | .number n :: rest => .ok (wrap n, rest, s)
    | .name name :: rest => (valueOf s name).map fun n => (n, rest, s)
    | .sign "-" :: rest => (eval fuel .value rest s).map fun (n, rest) => (wrap (-n), rest)
    | .sign "+" :: rest => eval fuel .value rest s
    | .sign "!" :: rest => (eval fuel .value rest s).map fun (n, rest) => (ofBool (n = 0), rest)
    | .sign "~" :: rest => (eval fuel .value rest s).map fun (n, rest) => (-n - 1, rest)
    | .sign "(" :: rest => do
      let (n, rest, s) ← eval fuel .whole rest s
      match rest with
      | .sign ")" :: rest => return (n, rest, s)
      | _ => .error .noClose
    | _ => .error .noOperand
where
  conditional (fuel : Nat) (tokens : List Token) (s : Session) :
      Except Cause Step := do
    let (condition, rest, s) ← binary (eval fuel .value) levels tokens s
    match rest with
    | .sign "?" :: rest =>
      let (yes, rest, s) ← eval fuel .whole rest s
      match rest with
      | .sign ":" :: rest =>
        let (no, rest, s) ← eval fuel .whole rest s
        return (if condition = 0 then no else yes, rest, s)
      | _ => .error .noColon
    | rest => return (condition, rest, s)

end Arithmetic

def evaluate (expression : List Char) (s : Session) : Except Arithmetic.Cause (Int × Session) := do
  let some tokens := Arithmetic.tokens (expression.length + 1) expression | .error .noOperand
  if tokens.isEmpty then return (0, s)
  else
    let (n, rest, s) ← Arithmetic.eval (2 * tokens.length + 4) .whole tokens s
    if rest.isEmpty then return (n, s) else .error .trailing

end ClassBatch.Shell
