import ClassBatch.Shell.Words

/-! Reading scripts. -/

namespace ClassBatch.Shell

namespace Reader

open Words

def skipBlanks : List Char → List Char
  | ' ' :: rest => skipBlanks rest
  | '\t' :: rest => skipBlanks rest
  | '\x5c' :: '\n' :: rest => skipBlanks rest
  | '#' :: rest => rest.dropWhile (· ≠ '\n')
  | s => s

def skipLines : Nat → List Char → List Char
  | 0, s => s
  | fuel + 1, s =>
    match skipBlanks s with
    | '\n' :: rest => skipLines fuel rest
    | s => s

def toNext (s : List Char) : List Char :=
  skipLines s.length s

def reserved : List String :=
  ["if", "then", "else", "elif", "fi", "do", "done", "case", "esac", "while", "until", "for",
    "\x7b", "\x7d", "!", "in"]

def readReserved (s : List Char) : Option (String × List Char) :=
  let word := String.ofList (s.takeWhile fun c => !isMeta c)
  if reserved.contains word then some (word, s.drop word.length) else none

def expect (word : String) (s : List Char) : Option (List Char) :=
  match readReserved (toNext s) with
  | some (found, rest) => if found = word then some rest else none
  | none => none

def expectSign (c : Char) (s : List Char) : Option (List Char) :=
  match skipBlanks s with
  | d :: rest => if c = d then some rest else none
  | [] => none

def readDocument (ending : List Char) (stripped : Bool) : Nat → List Char → List Char × List Char
  | 0, s => ([], s)
  | _ + 1, [] => ([], [])
  | fuel + 1, s =>
    let s := if stripped then s.dropWhile (· = '\t') else s
    let line := s.takeWhile (· ≠ '\n')
    let rest := s.drop (line.length + 1)
    if line = ending then ([], rest)
    else
      let (text, rest) := readDocument ending stripped fuel rest
      (line ++ '\n' :: text, rest)

def plainText (w : Word) : List Char × Bool :=
  (w.flatMap fun | .text chars _ => chars | _ => [],
    w.any fun | .text _ quoted => quoted | _ => false)

def readHere (stream : Nat) (stripped : Bool) (s : List Char) :
    Option (Redirect × List Char) := do
  let (word, s) ← readWord (skipBlanks s)
  let (ending, quoted) := plainText word
  let line := s.takeWhile (· ≠ '\n')
  let below := s.drop (line.length + 1)
  let (text, rest) := readDocument ending stripped (below.length + 1) below
  let content ← if quoted then some [Part.text text true] else ofDocument text
  return (⟨stream, .here content⟩, line ++ '\n' :: rest)

def readRedirect (s : List Char) : Option (Redirect × List Char) :=
  let digits := s.takeWhile Char.isDigit
  let given := digits.foldl (fun n c => 10 * n + (c.toNat - '0'.toNat)) 0
  let stream (usual : Nat) := if digits.isEmpty then usual else given
  let toward (usual : Nat) (direction : Word → Direction) (rest : List Char) := do
    let (word, rest) ← readWord (skipBlanks rest)
    return (Redirect.mk (stream usual) (direction word), rest)
  match s.drop digits.length with
  | '<' :: '<' :: '-' :: rest => readHere (stream 0) true rest
  | '<' :: '<' :: rest => readHere (stream 0) false rest
  | '<' :: '&' :: rest => toward 0 .copy rest
  | '<' :: rest => toward 0 .read rest
  | '>' :: '>' :: rest => toward 1 .append rest
  | '>' :: '&' :: rest => toward 1 .copy rest
  | '>' :: '|' :: rest => toward 1 .write rest
  | '>' :: rest => toward 1 .write rest
  | _ => none

def readRedirects : Nat → List Char → List Redirect × List Char
  | 0, s => ([], s)
  | fuel + 1, s =>
    match readRedirect (skipBlanks s) with
    | some (redirect, rest) =>
      let (redirects, rest) := readRedirects fuel rest
      (redirect :: redirects, rest)
    | none => ([], s)

def assignment? : Word → Option (String × Word)
  | .text chars false :: rest =>
    let name := chars.takeWhile isNameChar
    match chars.drop name.length with
    | '=' :: value =>
      if name.head?.any isNameStart then
        some (String.ofList name, if value.isEmpty then rest else .text value false :: rest)
      else none
    | _ => none
  | _ => none

def readSimple (left : Nat) : Nat → List (String × Word) → List Word → List Redirect →
    List Char → Option (Command × List Char)
  | 0, _, _, _, _ => none
  | fuel + 1, assignments, words, redirects, s =>
    let s := skipBlanks s
    match readRedirect s with
    | some (redirect, rest) => readSimple left fuel assignments words (redirect :: redirects) rest
    | none =>
      match readWord s with
      | some (word, rest) =>
        match words, assignment? word with
        | [], some assignment =>
          readSimple left fuel (assignment :: assignments) [] redirects rest
        | _, _ => readSimple left fuel assignments (word :: words) redirects rest
      | none =>
        if assignments.isEmpty && words.isEmpty && redirects.isEmpty then none
        else some (.simple left assignments.reverse words.reverse redirects.reverse, s)

def readWords : Nat → List Char → List Word × List Char
  | 0, s => ([], s)
  | fuel + 1, s =>
    match readWord (skipBlanks s) with
    | some (word, rest) =>
      let (words, rest) := readWords fuel rest
      (word :: words, rest)
    | none => ([], skipBlanks s)

def readPatterns : Nat → List Char → Option (List Word × List Char)
  | 0, _ => none
  | fuel + 1, s => do
    let (word, rest) ← readWord (skipBlanks s)
    match skipBlanks rest with
    | ')' :: rest => return ([word], rest)
    | '|' :: rest =>
      let (words, rest) ← readPatterns fuel rest
      return (word :: words, rest)
    | _ => none

def readDefined (s : List Char) : Option (String × List Char) :=
  let name := s.takeWhile isNameChar
  match skipBlanks (s.drop name.length) with
  | '(' :: rest =>
    match skipBlanks rest with
    | ')' :: rest => if name.isEmpty then none else some (String.ofList name, rest)
    | _ => none
  | _ => none

def single : List Command → Command
  | [command] => command
  | commands => .sequence commands

def withRedirects (command : Command) : List Redirect → Command
  | [] => command
  | redirects => .redirected command redirects

inductive Goal
  | list
  | chain
  | stages
  | command
  | branch
  | alternative
  | arms
  | body
deriving DecidableEq

inductive Found
  | commands (cs : List Command)
  | arms (as : List (List Word × Command))

def Found.command : Found → Command
  | commands cs => single cs
  | arms _ => .sequence []

def Found.stages : Found → List Command
  | commands cs => cs
  | arms _ => []

def Found.choices : Found → List (List Word × Command)
  | arms as => as
  | commands _ => []

def closes (s : List Char) : Bool :=
  match s with
  | [] => true
  | ')' :: _ => true
  | ';' :: ';' :: _ => true
  | _ =>
    match readReserved s with
    | some (word, _) => ["then", "else", "elif", "fi", "do", "done", "esac", "\x7d"].contains word
    | none => false

def readChain (link : List Char → Option (Found × List Char)) :
    Nat → Command → List Char → Option (Found × List Char)
  | 0, _, _ => none
  | fuel + 1, first, s =>
    match skipBlanks s with
    | '&' :: '&' :: rest => do
      let (second, rest) ← link rest
      readChain link fuel (.both first second.command) rest
    | '|' :: '|' :: rest => do
      let (second, rest) ← link rest
      readChain link fuel (.either first second.command) rest
    | s => some (.commands [first], s)

def read : Nat → Goal → List Char → Option (Found × List Char)
  | 0, _, _ => none
  | fuel + 1, .list, s =>
    let s := toNext s
    if closes s then some (.commands [], s)
    else do
      let (found, rest) ← read fuel .chain s
      let rest := skipBlanks rest
      match rest with
      | ';' :: ';' :: _ => return (.commands [found.command], rest)
      | '&' :: rest =>
        let (more, rest) ← read fuel .list rest
        return (.commands (.background found.command :: more.stages), rest)
      | ';' :: rest | '\n' :: rest =>
        let (more, rest) ← read fuel .list rest
        return (.commands (found.command :: more.stages), rest)
      | rest => if closes rest then return (.commands [found.command], rest) else none
  | fuel + 1, .chain, s => do
    let link (s : List Char) : Option (Found × List Char) :=
      let s := toNext s
      match readReserved s with
      | some ("!", rest) => do
        let (found, rest) ← read fuel .stages rest
        return (.commands [.negated (.pipeline found.stages)], rest)
      | _ => do
        let (found, rest) ← read fuel .stages s
        match found.stages with
        | [command] => return (.commands [command], rest)
        | stages => return (.commands [.pipeline stages], rest)
    let (first, rest) ← link s
    readChain link (s.length + 1) first.command rest
  | fuel + 1, .stages, s => do
    let (found, rest) ← read fuel .command (toNext s)
    match skipBlanks rest with
    | '|' :: '|' :: _ => return (.commands [found.command], rest)
    | '|' :: rest =>
      let (more, rest) ← read fuel .stages rest
      return (.commands (found.command :: more.stages), rest)
    | _ => return (.commands [found.command], rest)
  | fuel + 1, .body, s => do
    let rest ← expect "do" s
    let (found, rest) ← read fuel .list rest
    let rest ← expect "done" rest
    return (found, rest)
  | fuel + 1, .branch, s => do
    let (condition, rest) ← read fuel .list s
    let rest ← expect "then" rest
    let (success, rest) ← read fuel .list rest
    let (failure, rest) ← read fuel .alternative rest
    return (.commands [.branch condition.command success.command failure.command], rest)
  | fuel + 1, .alternative, s => do
    match readReserved (toNext s) with
    | some ("elif", rest) => read fuel .branch rest
    | some ("else", rest) =>
      let (found, rest) ← read fuel .list rest
      let rest ← expect "fi" rest
      return (.commands [found.command], rest)
    | some ("fi", rest) => return (.commands [], rest)
    | _ => none
  | fuel + 1, .arms, s => do
    let s := toNext s
    match readReserved s with
    | some ("esac", rest) => return (.arms [], rest)
    | _ =>
      let s := match s with
        | '(' :: rest => rest
        | s => s
      let (patterns, rest) ← readPatterns (s.length + 1) s
      let (body, rest) ← read fuel .list rest
      let rest := match toNext rest with
        | ';' :: ';' :: rest => rest
        | rest => rest
      let (more, rest) ← read fuel .arms rest
      return (.arms ((patterns, body.command) :: more.choices), rest)
  | fuel + 1, .command, s => do
    let finish (command : Command) (rest : List Char) : Option (Found × List Char) :=
      let (redirects, rest) := readRedirects rest.length rest
      some (.commands [withRedirects command redirects], rest)
    match s, readReserved s with
    | '(' :: rest, _ =>
      let (found, rest) ← read fuel .list rest
      let rest ← expectSign ')' (toNext rest)
      finish (.subshell found.command) rest
    | _, some ("\x7b", rest) =>
      let (found, rest) ← read fuel .list rest
      let rest ← expect "\x7d" rest
      finish found.command rest
    | _, some ("if", rest) =>
      let (found, rest) ← read fuel .branch rest
      finish found.command rest
    | _, some ("while", rest) =>
      let (condition, rest) ← read fuel .list rest
      let (body, rest) ← read fuel .body rest
      finish (.repeated false condition.command body.command) rest
    | _, some ("until", rest) =>
      let (condition, rest) ← read fuel .list rest
      let (body, rest) ← read fuel .body rest
      finish (.repeated true condition.command body.command) rest
    | _, some ("for", rest) =>
      let rest := skipBlanks rest
      let name := rest.takeWhile isNameChar
      let rest := rest.drop name.length
      let (words, rest) := match readReserved (toNext rest) with
        | some ("in", rest) =>
          let (words, rest) := readWords (rest.length + 1) rest
          (some words, rest)
        | _ => (none, rest)
      let rest := match skipBlanks rest with
        | ';' :: rest => rest
        | rest => rest
      let (body, rest) ← read fuel .body rest
      finish (.each (String.ofList name) words body.command) rest
    | _, some ("case", rest) =>
      let (word, rest) ← readWord (skipBlanks rest)
      let rest ← expect "in" rest
      let (arms, rest) ← read fuel .arms rest
      finish (.choice word arms.choices) rest
    | _, some _ => none
    | _, none =>
      match readDefined s with
      | some (name, rest) =>
        let (body, rest) ← read fuel .command (toNext rest)
        return (.commands [.define name body.command], rest)
      | none =>
        let (command, rest) ← readSimple s.length (s.length + 1) [] [] [] s
        return (.commands [command], rest)

end Reader

def Command.parse? (source : List Char) : Option Command :=
  match Reader.read (4 * source.length + 8) .list source with
  | some (found, []) => some found.command
  | _ => none

end ClassBatch.Shell
