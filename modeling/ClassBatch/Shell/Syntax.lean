/-! The commands of shell scripts. -/

namespace ClassBatch.Shell

inductive Modifier
  | plain
  | length
  | orElse (colon : Bool)
  | assign (colon : Bool)
  | demand (colon : Bool)
  | instead (colon : Bool)
  | cutStart (longest : Bool)
  | cutEnd (longest : Bool)
deriving DecidableEq, Repr

inductive Part
  | text (chars : List Char) (quoted : Bool)
  | parameter (name : String) (modifier : Modifier) (argument : List Part) (quoted : Bool)
  | output (source : List Char) (quoted : Bool)
  | arithmetic (expression : List Part) (quoted : Bool)
deriving Repr

abbrev Word := List Part

inductive Direction
  | read (path : Word)
  | write (path : Word)
  | append (path : Word)
  | copy (stream : Word)
  | here (content : Word)
deriving Repr

structure Redirect where
  stream : Nat
  direction : Direction
deriving Repr

inductive Command
  | simple (left : Nat) (assignments : List (String × Word)) (words : List Word)
      (redirects : List Redirect)
  | pipeline (stages : List Command)
  | negated (command : Command)
  | both (first second : Command)
  | either (first second : Command)
  | sequence (commands : List Command)
  | background (command : Command)
  | subshell (command : Command)
  | redirected (command : Command) (redirects : List Redirect)
  | branch (condition success failure : Command)
  | repeated (until_ : Bool) (condition body : Command)
  | each (name : String) (words : Option (List Word)) (body : Command)
  | choice (word : Word) (arms : List (List Word × Command))
  | define (name : String) (body : Command)
deriving Repr

instance : Inhabited Command := ⟨.sequence []⟩

end ClassBatch.Shell
