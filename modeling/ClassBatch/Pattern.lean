import ClassBatch.ClassName
import ClassBatch.Error
import ClassBatch.Names
import ClassBatch.Regex.Search

/-! Patterns that select classes by name. -/

namespace ClassBatch

inductive Pattern
  | exact (name : String)
  | package (name : String)
  | all
  | regex (expression : String)
deriving DecidableEq, Repr

namespace Pattern

inductive Matcher
  | all
  | exact (name : String)
  | below (parent : String)
  | regex (program : Regex.Expr)

def compile : Pattern → Except PatternError Matcher
  | all => .ok .all
  | exact name => if name.isEmpty then .error .emptyName else .ok (.exact name)
  | package name => if name.isEmpty then .error .emptyPackage else .ok (.below (name ++ "/"))
  | regex expression =>
    match Regex.compile? ("^(?:" ++ expression ++ ")$") with
    | some program => .ok (.regex program)
    | none => .error (.invalidRegex expression)

def Matcher.accepts : Matcher → String → Bool
  | all, _ => true
  | exact wanted, name => name == wanted
  | below parent, name =>
    (Text.afterStart? parent.toList name.toList).any fun rest => !rest.isEmpty
  | regex program, name => program.occursIn name.toList

def checked (p : Pattern) : Except PatternError Pattern :=
  p.compile.map fun _ => p

def ofName (raw : String) : Pattern :=
  exact (ClassName.normalize raw)

def ofPackage (raw : String) : Pattern :=
  package (ClassName.normalize raw)

def parseExact (raw : String) : Except PatternError Pattern :=
  (ofName raw).checked

def parsePackage (raw : String) : Except PatternError Pattern :=
  (ofPackage raw).checked

def packageText? (text : List Char) : Option (List Char) :=
  (Text.beforeEnding? "/.*".toList text).or <|
    (Text.beforeEnding? "/*".toList text).or (Text.beforeEnding? ".*".toList text)

def parse (raw : String) : Except PatternError Pattern :=
  let text := Text.trimBoth Text.isBlank raw.toList
  if text = "*".toList ∨ text = ".*".toList ∨ text = "all".toList then .ok all
  else match Text.afterStart? "re:".toList text with
    | some expression => (regex (String.ofList expression)).checked
    | none =>
      match packageText? text with
      | some name => parsePackage (String.ofList name)
      | none => parseExact (String.ofList text)

def select (p : Pattern) (names : List String) : Except PatternError (List String) :=
  p.compile.map fun m => Names.sorted (names.filter m.accepts)

end Pattern

end ClassBatch
