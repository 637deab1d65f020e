import ClassBatch.Shell.Syntax

/-! Reading the words of scripts. -/

namespace ClassBatch.Shell

namespace Words

def isMeta (c : Char) : Bool :=
  c = ' ' || c = '\t' || c = '\n' || c = ';' || c = '&' || c = '|' || c = '<' || c = '>' ||
    c = '(' || c = ')'

def isNameStart (c : Char) : Bool :=
  c.isAlpha || c = '_'

def isNameChar (c : Char) : Bool :=
  c.isAlphanum || c = '_'

def isSpecial (c : Char) : Bool :=
  c = '@' || c = '*' || c = '#' || c = '?' || c = '-' || c = '$' || c = '!' || c.isDigit

inductive Place
  | bare
  | quotes
  | braces (quoted : Bool)
  | document
deriving DecidableEq, Repr

def Place.quoted : Place → Bool
  | bare => false
  | quotes | document => true
  | braces quoted => quoted

def readSingle : List Char → Option (List Char × List Char)
  | [] => none
  | '\x27' :: rest => some ([], rest)
  | c :: rest => (readSingle rest).map fun (text, rest) => (c :: text, rest)

def readBackquoted : List Char → Option (List Char × List Char)
  | [] => none
  | '\x60' :: rest => some ([], rest)
  | '\x5c' :: c :: rest =>
    (readBackquoted rest).map fun (text, rest) =>
      (if c = '\x60' || c = '\x5c' || c = '$' then c :: text else '\x5c' :: c :: text, rest)
  | c :: rest => (readBackquoted rest).map fun (text, rest) => (c :: text, rest)

inductive Quote
  | none
  | single
  | double
deriving DecidableEq

def readNested (depth : Nat) (quote : Quote) : List Char → Option (List Char × List Char)
  | [] => Option.none
  | '\x5c' :: c :: rest =>
    if quote = .single then do
      if c = '\x27' then
        let (text, rest) ← readNested depth .none rest
        return ('\x5c' :: c :: text, rest)
      else
        let (text, rest) ← readNested depth quote rest
        return ('\x5c' :: c :: text, rest)
    else (readNested depth quote rest).map fun (text, rest) => ('\x5c' :: c :: text, rest)
  | c :: rest =>
    let keep (depth : Nat) (quote : Quote) :=
      (readNested depth quote rest).map fun (text, rest) => (c :: text, rest)
    match quote with
    | .single => keep depth (if c = '\x27' then .none else .single)
    | .double =>
      if c = '\x22' then keep depth .none
      else if c = '(' then keep (depth + 1) .double
      else if c = ')' && depth > 1 then keep (depth - 1) .double
      else keep depth .double
    | .none =>
      if c = '\x27' then keep depth .single
      else if c = '\x22' then keep depth .double
      else if c = '(' then keep (depth + 1) .none
      else if c = ')' then if depth ≤ 1 then some ([], rest) else keep (depth - 1) .none
      else keep depth .none

def readModifier : List Char → Option (Modifier × List Char)
  | ':' :: '-' :: rest => some (.orElse true, rest)
  | ':' :: '=' :: rest => some (.assign true, rest)
  | ':' :: '?' :: rest => some (.demand true, rest)
  | ':' :: '+' :: rest => some (.instead true, rest)
  | '-' :: rest => some (.orElse false, rest)
  | '=' :: rest => some (.assign false, rest)
  | '?' :: rest => some (.demand false, rest)
  | '+' :: rest => some (.instead false, rest)
  | '#' :: '#' :: rest => some (.cutStart true, rest)
  | '#' :: rest => some (.cutStart false, rest)
  | '%' :: '%' :: rest => some (.cutEnd true, rest)
  | '%' :: rest => some (.cutEnd false, rest)
  | '\x7d' :: rest => some (.plain, '\x7d' :: rest)
  | _ => none

def readName : List Char → Option (String × List Char)
  | [] => none
  | c :: rest =>
    if isNameStart c then
      some (String.ofList (c :: rest.takeWhile isNameChar), rest.dropWhile isNameChar)
    else if c.isDigit then
      some (String.ofList (c :: rest.takeWhile Char.isDigit), rest.dropWhile Char.isDigit)
    else if isSpecial c then some (c.toString, rest)
    else none

def isCut : Modifier → Bool
  | .cutStart _ | .cutEnd _ => true
  | _ => false

def ends (place : Place) (c : Char) : Bool :=
  match place with
  | .bare => isMeta c
  | .quotes => c = '\x22'
  | .braces _ => c = '\x7d'
  | .document => false

def push (c : Char) (quoted : Bool) : List Part → List Part
  | .text chars q :: rest =>
    if q = quoted then .text (c :: chars) q :: rest else .text [c] quoted :: .text chars q :: rest
  | rest => .text [c] quoted :: rest

def isEscapable (place : Place) (c : Char) : Bool :=
  c = '$' || c = '\x60' || c = '\x5c' || (c = '\x22' && place ≠ .document) ||
    (c = '\x7d' && match place with | .braces _ => true | _ => false)

def readParts : Nat → Place → List Char → Option (List Part × List Char)
  | 0, _, _ => none
  | _ + 1, _, [] => some ([], [])
  | fuel + 1, place, c :: rest =>
    let quoted := place.quoted
    let continued (part : Part) (rest : List Char) : Option (List Part × List Char) := do
      let (parts, rest) ← readParts fuel place rest
      return (part :: parts, rest)
    let literal (c : Char) (quoted : Bool) (rest : List Char) : Option (List Part × List Char) := do
      let (parts, rest) ← readParts fuel place rest
      return (push c quoted parts, rest)
    if ends place c then some ([], c :: rest)
    else if c = '\x5c' then
      match rest with
      | [] => literal c quoted []
      | '\n' :: rest => readParts fuel place rest
      | d :: rest =>
        if quoted && !isEscapable place d then literal c quoted (d :: rest)
        else literal d true rest
    else if c = '\x27' && !quoted then do
      let (text, rest) ← readSingle rest
      continued (.text text true) rest
    else if c = '\x22' && place ≠ .document && place ≠ .braces true then do
      let (inside, rest) ← readParts fuel .quotes rest
      match rest with
      | [] => none
      | _ :: rest =>
        let (parts, rest) ← readParts fuel place rest
        return (.text [] true :: inside ++ parts, rest)
    else if c = '\x60' then do
      let (source, rest) ← readBackquoted rest
      continued (.output source quoted) rest
    else if c = '$' then
      match rest with
      | '(' :: '(' :: rest => do
        let (source, rest) ← readNested 2 .none rest
        let (expression, _) ← readParts fuel .document (source.dropLast)
        continued (.arithmetic expression quoted) rest
      | '(' :: rest => do
        let (source, rest) ← readNested 1 .none rest
        continued (.output source quoted) rest
      | '\x7b' :: '#' :: '\x7d' :: rest => continued (.parameter "#" .plain [] quoted) rest
      | '\x7b' :: '#' :: rest => do
        let (name, rest) ← readName rest
        match rest with
        | '\x7d' :: rest => continued (.parameter name .length [] quoted) rest
        | _ => none
      | '\x7b' :: rest => do
        let (name, rest) ← readName rest
        let (modifier, rest) ← readModifier rest
        let (argument, rest) ← readParts fuel (.braces (quoted && !isCut modifier)) rest
        match rest with
        | '\x7d' :: rest => continued (.parameter name modifier argument quoted) rest
        | _ => none
      | d :: rest =>
        if isNameStart d then
          let name := String.ofList (d :: rest.takeWhile isNameChar)
          continued (.parameter name .plain [] quoted) (rest.dropWhile isNameChar)
        else if isSpecial d then continued (.parameter d.toString .plain [] quoted) rest
        else literal c quoted (d :: rest)
      | [] => literal c quoted []
    else literal c quoted rest

def readWord (s : List Char) : Option (Word × List Char) :=
  let isHome := s.head? = some '~' && s.tail.head?.all fun c => c = '/' || isMeta c
  match readParts (s.length + 1) .bare (if isHome then s.tail else s) with
  | some (parts, rest) =>
    let parts := if isHome then .parameter "HOME" .plain [] true :: parts else parts
    if parts.isEmpty then none else some (parts, rest)
  | none => none

def ofDocument (s : List Char) : Option Word :=
  (readParts (s.length + 1) .document s).map Prod.fst

end Words

end ClassBatch.Shell
