import ClassBatch.Unicode.Property

/-! Regular expressions over characters. -/

namespace ClassBatch.Regex

open Unicode

inductive Look
  | start
  | stop
  | lineStart
  | lineStop
  | lineStartCrlf
  | lineStopCrlf
  | wordEdge (unicode : Bool)
  | wordInside (unicode : Bool)
  | wordStart (unicode : Bool)
  | wordStop (unicode : Bool)
  | wordStartHalf (unicode : Bool)
  | wordStopHalf (unicode : Bool)
deriving DecidableEq, Repr

inductive Expr
  | empty
  | chars (set : CharSet)
  | look (l : Look)
  | seq (first second : Expr)
  | alt (first second : Expr)
  | loop (body : Expr) (min : Nat) (max : Option Nat)
  | group (body : Expr)
deriving DecidableEq, Repr

namespace Expr

def isTrivial : Expr → Bool
  | empty => true
  | chars _ => false
  | look _ => true
  | seq a b => a.isTrivial && b.isTrivial
  | alt a b => a.isTrivial && b.isTrivial
  | loop e _ _ => e.isTrivial
  | group e => e.isTrivial

def consumes : Expr → Bool
  | empty => false
  | chars set => !set.isEmpty
  | look _ => false
  | seq a b => a.consumes || b.consumes
  | alt a b => a.consumes && b.consumes
  | loop e min _ => min != 0 && e.consumes
  | group e => e.consumes

def andThen : Expr → Expr → Expr
  | empty, b => b
  | a, empty => a
  | a, b => seq a b

def concat (es : List Expr) : Expr :=
  es.foldr andThen empty

def branches : Expr → List Expr
  | alt a b => a.branches ++ b.branches
  | e => [e]

def chars? : Expr → Option CharSet
  | chars set => some set
  | _ => none

def unionOfChars? : List Expr → Option CharSet
  | [] => some []
  | e :: es => do return CharSet.union (← e.chars?) (← unionOfChars? es)

def orElse : List Expr → Expr
  | [] => chars []
  | [e] => e
  | e :: es => alt e (orElse es)

def oneOf (es : List Expr) : Expr :=
  let flat := es.flatMap branches
  match unionOfChars? flat with
  | some set => chars set
  | none => orElse flat

def times (e : Expr) (min : Nat) (max : Option Nat) : Expr :=
  let (min, max) :=
    if e.isTrivial then (Nat.min min 1, some ((max.map (Nat.min · 1)).getD 1)) else (min, max)
  if min = 0 ∧ max = some 0 then empty
  else if min = 1 ∧ max = some 1 then e
  else loop e min max

end Expr

end ClassBatch.Regex
