import ClassBatch.Shell.Arithmetic
import ClassBatch.Text.Utf8

/-! Texts with escapes and conversions, as `echo` and `printf` write them. -/

namespace ClassBatch.Shell

open Text (Bytes)

namespace Format

def ofChar (c : Char) : Bytes :=
  String.utf8EncodeChar c

def isOctal (c : Char) : Bool :=
  '0' ≤ c && c ≤ '7'

def octal (digits : List Char) : UInt8 :=
  UInt8.ofNat (digits.foldl (fun n c => 8 * n + (c.toNat - '0'.toNat)) 0)

def letter? : Char → Option UInt8
  | 'a' => some 7
  | 'b' => some 8
  | 'e' => some 27
  | 'f' => some 12
  | 'n' => some 10
  | 'r' => some 13
  | 't' => some 9
  | 'v' => some 11
  | '\x5c' => some 92
  | _ => none

def escaped : Nat → List Char → Bytes × Bool
  | 0, _ => ([], false)
  | _ + 1, [] => ([], false)
  | _ + 1, '\x5c' :: 'c' :: _ => ([], true)
  | fuel + 1, '\x5c' :: '0' :: rest =>
    let digits := (rest.take 3).takeWhile isOctal
    let (more, stop) := escaped fuel (rest.drop digits.length)
    (octal digits :: more, stop)
  | fuel + 1, '\x5c' :: c :: rest =>
    let digits := ((c :: rest).take 3).takeWhile isOctal
    let (first, rest) := match digits, letter? c with
      | [], some b => (b, rest)
      | [], none => (92, c :: rest)
      | digits, _ => (octal digits, (c :: rest).drop digits.length)
    let (more, stop) := escaped fuel rest
    (first :: more, stop)
  | fuel + 1, c :: rest =>
    let (more, stop) := escaped fuel rest
    (ofChar c ++ more, stop)

def ofEscaped (s : List Char) : Bytes × Bool :=
  escaped (s.length + 1) s

structure Conversion where
  left : Bool := false
  zero : Bool := false
  plus : Bool := false
  blank : Bool := false
  sharp : Bool := false
  width : Nat := 0
  precision : Option Nat := none

def readFlags : List Char → Conversion → Conversion × List Char
  | '-' :: rest, c => readFlags rest { c with left := true }
  | '0' :: rest, c => readFlags rest { c with zero := true }
  | '+' :: rest, c => readFlags rest { c with plus := true }
  | ' ' :: rest, c => readFlags rest { c with blank := true }
  | '#' :: rest, c => readFlags rest { c with sharp := true }
  | s, c => (c, s)

def readCount (s : List Char) : Nat × List Char :=
  ((s.takeWhile Char.isDigit).foldl (fun n c => 10 * n + (c.toNat - '0'.toNat)) 0,
    s.dropWhile Char.isDigit)

def readConversion (s : List Char) : Conversion × List Char :=
  let (c, s) := readFlags s {}
  let (width, s) := readCount s
  match s with
  | '.' :: rest =>
    let (precision, rest) := readCount rest
    ({ c with width, precision := some precision }, rest)
  | s => ({ c with width }, s)

def pad (c : Conversion) (fill : UInt8) (data : Bytes) : Bytes :=
  let missing := List.replicate (c.width - data.length) fill
  if c.left then data ++ List.replicate (c.width - data.length) 32 else missing ++ data

def readNumber (arg : String) : Int × Option String :=
  match arg.toList with
  | [] => (0, none)
  | '\x27' :: c :: _ | '\x22' :: c :: _ => (c.toNat, none)
  | chars =>
    let (negative, digits) := match chars with
      | '-' :: rest => (true, rest)
      | '+' :: rest => (false, rest)
      | chars => (false, chars)
    let (n, rest) := Arithmetic.readNumber digits
    let fault :=
      if !digits.head?.any Char.isDigit then some "expected numeric value"
      else if rest.isEmpty then none
      else some "not completely converted"
    (if negative then -n else n, fault)

def digits (base : Nat) (n : Nat) : List Char :=
  Nat.toDigits base n

def number (c : Conversion) (kind : Char) (n : Int) : Bytes :=
  let magnitude := if kind = 'd' || kind = 'i' then n.natAbs else (n % UInt64.size).toNat
  let text := match kind with
    | 'x' => digits 16 magnitude
    | 'X' => (digits 16 magnitude).map Char.toUpper
    | 'o' => digits 8 magnitude
    | _ => digits 10 magnitude
  let text := match c.precision with
    | some p => List.replicate (p - text.length) '0' ++ text
    | none => text
  let mark := if c.sharp && kind = 'x' then ['0', 'x'] else if c.sharp && kind = 'X' then ['0', 'X']
    else if c.sharp && kind = 'o' then ['0'] else []
  let sign := if n < 0 && (kind = 'd' || kind = 'i') then ['-'] else if c.plus then ['+']
    else if c.blank then [' '] else []
  let lead := sign ++ mark
  if c.zero && !c.left && c.precision.isNone then
    let fill := List.replicate (c.width - lead.length - text.length) '0'
    (lead ++ fill ++ text).flatMap ofChar
  else pad c 32 ((lead ++ text).flatMap ofChar)

structure Pass where
  data : List Bytes := []
  rest : List String
  stop : Bool := false
  status : Nat := 0
  faults : List String := []

def Pass.add (p : Pass) (data : Bytes) : Pass :=
  { p with data := data :: p.data }

def Pass.abandon (p : Pass) (why : String) : Pass :=
  { p with stop := true, status := 2, faults := p.faults ++ [why] }

def Pass.blame (p : Pass) (arg : String) : Option String → Pass
  | some why => { p with status := 1, faults := p.faults ++ [arg ++ ": " ++ why] }
  | none => p

def pass : Nat → List Char → Pass → Pass
  | 0, _, p => p
  | _ + 1, [], p => p
  | fuel + 1, '%' :: '%' :: s, p => pass fuel s (p.add [37])
  | fuel + 1, '%' :: s, p =>
    let (c, s) := readConversion s
    match s with
    | [] => p.abandon "missing format character"
    | kind :: s =>
      let arg := p.rest.headD ""
      let p := { p with rest := p.rest.tail }
      match kind with
      | 's' =>
        let data := Text.encode arg
        pass fuel s (p.add (pad c 32 (c.precision.elim data data.take)))
      | 'b' =>
        let (data, stop) := ofEscaped arg.toList
        let p := p.add (pad c 32 (c.precision.elim data data.take))
        if stop then { p with stop } else pass fuel s p
      | 'c' => pass fuel s (p.add (pad c 32 ((Text.encode arg).take 1)))
      | kind =>
        if ['d', 'i', 'u', 'o', 'x', 'X'].contains kind then
          let (n, fault) := readNumber arg
          pass fuel s ((p.add (number c kind n)).blame arg fault)
        else p.abandon ("%" ++ kind.toString ++ ": invalid directive")
  | _ + 1, '\x5c' :: 'c' :: _, p => { p with stop := true }
  | fuel + 1, '\x5c' :: c :: s, p =>
    let digits := ((c :: s).take 3).takeWhile isOctal
    if digits.isEmpty then
      match letter? c with
      | some b => pass fuel s (p.add [b])
      | none => pass fuel (c :: s) (p.add [92])
    else pass fuel ((c :: s).drop digits.length) (p.add [octal digits])
  | fuel + 1, c :: s, p => pass fuel s (p.add (ofChar c))

def passes (format : List Char) : Nat → Pass → Pass
  | 0, p => p
  | fuel + 1, p =>
    let next := pass (format.length + 1) format p
    if next.stop || next.rest.isEmpty || next.rest.length = p.rest.length then next
    else passes format fuel next

def printf (args : List String) : Bytes × List String × Nat :=
  match if args.head? = some "--" then args.tail else args with
  | [] => ([], ["usage: printf format [arg ...]"], 2)
  | format :: args =>
    let p := passes format.toList (args.length + 1) { rest := args }
    (joined p.data, p.faults, p.status)

def echo (args : List String) : Bytes :=
  let (args, ending) : List String × Bytes := match args with
    | "-n" :: rest => (rest, [])
    | args => (args, [10])
  let (data, stop) := ofEscaped (String.intercalate " " args).toList
  if stop then data else data ++ ending

end Format

end ClassBatch.Shell
