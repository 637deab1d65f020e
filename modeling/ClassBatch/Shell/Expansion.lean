import ClassBatch.Shell.Arithmetic
import ClassBatch.Shell.Wildcard

/-! From the words of a script to the texts that its commands are given. -/

namespace ClassBatch.Shell

open Files

inductive Piece
  | char (c : Char) (quoted splits : Bool)
  | mark
  | fieldEnd
  | nobody
deriving DecidableEq, Repr

namespace Expansion

def ofValue (quoted : Bool) (text : List Char) : List Piece :=
  text.map fun c => .char c quoted !quoted

def ofText (quoted : Bool) (text : List Char) : List Piece :=
  text.map fun c => .char c quoted false

def separators (s : Session) : List Char :=
  (s.value? "IFS").elim [' ', '\t', '\n'] String.toList

def ofArguments (quoted : Bool) : List String → List Piece
  | [] => [.nobody]
  | [a] => .mark :: ofValue quoted a.toList
  | a :: rest => .mark :: ofValue quoted a.toList ++ .fieldEnd :: ofArguments quoted rest

def joinedArguments (s : Session) : List Char :=
  let between := ((separators s).head?.map fun c => c.toString).getD ""
  (String.intercalate between s.arguments).toList

def characters (pieces : List Piece) : List Char :=
  pieces.filterMap fun
    | .char c _ _ => some c
    | .fieldEnd => some ' '
    | _ => none

def marked (pieces : List Piece) : List (Char × Bool) :=
  pieces.filterMap fun
    | .char c quoted _ => some (c, quoted)
    | .fieldEnd => some (' ', true)
    | _ => none

def withFault (s : Session) (text : String) : Session :=
  { s with fault := s.fault.or (some text) }

def parameter (s : Session) (name : String) (quoted : Bool) : Option (List Piece) :=
  if name = "@" || (name = "*" && !quoted) then
    if s.arguments.isEmpty then none else some (ofArguments quoted s.arguments)
  else if name = "*" then some (ofValue quoted (joinedArguments s))
  else (s.value? name).map fun text => ofValue quoted text.toList

abbrev Substitute := List Char → Session → List Char × Session

def isMissing (colon : Bool) (value : Option (List Piece)) : Bool :=
  match value with
  | none => true
  | some pieces => colon && (characters pieces).isEmpty

mutual

def expandPart (substitute : Substitute) (part : Part) (s : Session) : List Piece × Session :=
  match part with
  | .text chars quoted => ((if quoted then [.mark] else []) ++ ofText quoted chars, s)
  | .output source quoted =>
    let (text, s) := substitute source s
    (ofValue quoted text, s)
  | .arithmetic expression quoted =>
    let (pieces, s) := expandParts substitute expression s
    match evaluate (characters pieces) s with
    | .ok (n, s) => (ofValue quoted (toString n).toList, s)
    | .error cause => ([], withFault s (cause.message (String.ofList (characters pieces))))
  | .parameter name modifier argument quoted =>
    let found := parameter s name quoted
    let kept := found.getD (if name = "@" then [.nobody] else [])
    match modifier with
    | .plain =>
      if found.isNone && s.bound && name ≠ "@" && name ≠ "*" then
        ([], withFault s (name ++ ": parameter not set"))
      else (kept, s)
    | .length => (ofValue quoted (toString (String.ofList (characters kept)).utf8ByteSize).toList, s)
    | .orElse colon =>
      if isMissing colon found then expandParts substitute argument s else (kept, s)
    | .assign colon =>
      if isMissing colon found then
        let (pieces, s) := expandParts substitute argument s
        let text := characters pieces
        (ofValue quoted text, s.setVariable name (String.ofList text))
      else (kept, s)
    | .demand colon =>
      if isMissing colon found then
        let (pieces, s) := expandParts substitute argument s
        let text := String.ofList (characters pieces)
        let why := if !text.isEmpty then text
          else if colon then "parameter not set or null" else "parameter not set"
        ([], withFault s (name ++ ": " ++ why))
      else (kept, s)
    | .instead colon =>
      if isMissing colon found then ([], s) else expandParts substitute argument s
    | .cutStart longest =>
      let (pieces, s) := expandParts substitute argument s
      let wild := Wildcard.ofMarked (marked pieces)
      (ofValue quoted (Wildcard.cutStart wild longest (characters kept)), s)
    | .cutEnd longest =>
      let (pieces, s) := expandParts substitute argument s
      let wild := Wildcard.ofMarked (marked pieces)
      (ofValue quoted (Wildcard.cutEnd wild longest (characters kept)), s)

def expandParts (substitute : Substitute) (parts : List Part) (s : Session) :
    List Piece × Session :=
  match parts with
  | [] => ([], s)
  | part :: rest =>
    let (pieces, s) := expandPart substitute part s
    let (more, s) := expandParts substitute rest s
    (pieces ++ more, s)

end

structure Field where
  chars : List (Char × Bool) := []
  present : Bool := false
  nobody : Bool := false

def Field.close (f : Field) (fields : List (List (Char × Bool))) : List (List (Char × Bool)) :=
  if f.chars.isEmpty && (!f.present || f.nobody) then fields else f.chars.reverse :: fields

def collect (separators : List Char) :
    List Piece → Field → List (List (Char × Bool)) → List (List (Char × Bool))
  | [], field, fields => field.close fields
  | .char c quoted splits :: rest, field, fields =>
    if splits && separators.contains c then
      let field := if c = ' ' || c = '\t' || c = '\n' then field else { field with present := true }
      collect separators rest {} (field.close fields)
    else
      collect separators rest
        { field with chars := (c, quoted) :: field.chars, present := true } fields
  | .mark :: rest, field, fields => collect separators rest { field with present := true } fields
  | .nobody :: rest, field, fields => collect separators rest { field with nobody := true } fields
  | .fieldEnd :: rest, field, fields => collect separators rest {} (field.close fields)

def segments (chars : List (Char × Bool)) : List (List (Char × Bool)) :=
  chars.foldr (fun c parts =>
    match c.1, parts with
    | '/', parts => [] :: parts
    | _, part :: parts => (c :: part) :: parts
    | _, [] => [[c]]) [[]]

def plain (chars : List (Char × Bool)) : String :=
  String.ofList (chars.map Prod.fst)

def namesIn (d : Disk) (path : String) : List String :=
  match d.node (if path.isEmpty then "." else path) with
  | .ok (.dir entries _) => (entries.map Prod.fst).mergeSort (· ≤ ·)
  | _ => []

def paths (d : Disk) (start : String) : List (List (Char × Bool)) → List String
  | [] => [start]
  | segment :: rest =>
    let next := (if rest.isEmpty then "" else "/")
    if Wildcard.isWild segment then
      let wild := Wildcard.ofMarked segment
      let visible (name : String) := name.toList.head? ≠ some '.' || wild.head? = some (.literal '.')
      let names := (namesIn d start).filter fun name =>
        visible name && Wildcard.matchesAll wild name.toList
      names.flatMap fun name => paths d (start ++ name ++ next) rest
    else paths d (start ++ plain segment ++ next) rest

def spread (d : Disk) (field : List (Char × Bool)) : List String :=
  if Wildcard.isWild field then
    match (paths d "" (segments field)).filter d.has with
    | [] => [plain field]
    | found => found
  else [plain field]

def fields (substitute : Substitute) (w : Word) (s : Session) : List String × Session :=
  let (pieces, s) := expandParts substitute w s
  ((collect (separators s) pieces {} []).reverse.flatMap
    (if s.spreads then spread s.disk else fun field => [plain field]), s)

def text (substitute : Substitute) (w : Word) (s : Session) : String × Session :=
  let (pieces, s) := expandParts substitute w s
  (String.ofList (characters pieces), s)

def wildcards (substitute : Substitute) (w : Word) (s : Session) : List Wildcard × Session :=
  let (pieces, s) := expandParts substitute w s
  (Wildcard.ofMarked (marked pieces), s)

def allFields (substitute : Substitute) : List Word → Session → List String × Session
  | [], s => ([], s)
  | w :: rest, s =>
    let (first, s) := fields substitute w s
    let (more, s) := allFields substitute rest s
    (first ++ more, s)

end Expansion

end ClassBatch.Shell
