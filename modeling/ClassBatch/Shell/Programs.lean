import ClassBatch.Shell.Editing
import ClassBatch.Shell.Search

/-! The programs that scripts find on every system, by their names. -/

namespace ClassBatch.Shell

open Files

namespace Utility

def env (s : Session) : Session :=
  s.say (String.join (s.environment.map fun (name, value) => name ++ "=" ++ value ++ "\n"))

def table : List (String × (List String → Session → Session)) :=
  [("cat", cat), ("mkdir", mkdir), ("rm", rm), ("rmdir", rmdir), ("touch", touch),
    ("cp", copyOrMove false), ("mv", copyOrMove true), ("chmod", chmod), ("head", head),
    ("tail", tail), ("sort", sort), ("uniq", uniq), ("wc", wc), ("tr", tr), ("cut", cut),
    ("tee", tee), ("seq", seq), ("basename", basename), ("dirname", dirname),
    ("realpath", realpath), ("readlink", realpath), ("ls", ls), ("grep", grep), ("sed", sed),
    ("expr", expr), ("true", fun _ s => s), ("false", fun _ s => s.done 1),
    ("echo", fun args s => s.write 1 (Format.echo args)), ("printf", printf),
    ("pwd", fun _ s => s.say (Path.render s.disk.here ++ "\n")), ("test", Test.run "test"),
    ("[", Test.bracket), ("whoami", fun _ s => s.say "root\n"), ("sync", fun _ s => s)]

def others : List String :=
  ["sleep", "env", "sh", "dash", "bash", "find", "xargs", "which"]

def isKnown (name : String) : Bool :=
  others.contains name || (table.lookup name).isSome

def millis? (text : String) : Option Nat :=
  let (whole, rest) := Format.readCount text.toList
  let (thousandths, rest) := match rest with
    | '.' :: digits =>
      let part := (digits ++ ['0', '0', '0']).take 3
      ((Format.readCount part).1, digits.dropWhile Char.isDigit)
    | rest => (0, rest)
  let value := 1000 * whole + thousandths
  match rest with
  | [] | ['s'] => some value
  | ['m'] => some (60 * value)
  | ['h'] => some (3600 * value)
  | _ => none

end Utility

end ClassBatch.Shell
