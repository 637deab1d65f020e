import ClassBatch.Regex.Syntax

/-!
Matching by marks. A leaf is marked when a match can have come to stand right behind its
character; reading a character moves the marks, so a text is searched in one pass whatever the
expression.
-/

namespace ClassBatch.Regex

open Unicode

structure Place where
  before : Option Char
  behind : Option Char

def isWordChar (unicode : Bool) (c : Option Char) : Bool :=
  c.any fun c =>
    if c.toNat < 0x80 then c.isAlpha || c.isDigit || c == '_'
    else unicode && wordChars.contains c

def Look.holds (l : Look) (p : Place) : Bool :=
  match l with
  | start => p.before.isNone
  | stop => p.behind.isNone
  | lineStart => p.before.all (· == '\n')
  | lineStop => p.behind.all (· == '\n')
  | lineStartCrlf =>
    p.before.all fun c => c == '\n' || (c == '\r' && p.behind != some '\n')
  | lineStopCrlf =>
    p.behind.all fun c => c == '\r' || (c == '\n' && p.before != some '\r')
  | wordEdge u => isWordChar u p.before != isWordChar u p.behind
  | wordInside u => isWordChar u p.before == isWordChar u p.behind
  | wordStart u => !isWordChar u p.before && isWordChar u p.behind
  | wordStop u => isWordChar u p.before && !isWordChar u p.behind
  | wordStartHalf u => !isWordChar u p.before
  | wordStopHalf u => !isWordChar u p.behind

/-- An expression without counts whose leaves carry marks. -/
inductive Marked
  | empty
  | leaf (set : CharSet) (mark : Bool)
  | look (l : Look)
  | seq (first second : Marked)
  | alt (first second : Marked)
  | many (body : Marked)

namespace Marked

def copies (m : Marked) (n : Nat) : Marked :=
  if n = 0 then empty
  else if n = 1 then m
  else seq (copies m (n / 2)) (copies m (n - n / 2))
termination_by n
decreasing_by all_goals omega

def optional (m : Marked) : Marked :=
  alt m empty

def repeated (m : Marked) (min : Nat) : Option Nat → Marked
  | none => if min = 0 then optional (many m) else seq (copies m (min - 1)) (many m)
  | some max => seq (copies m min) (copies (optional m) (max - min))

def nullable (p : Place) : Marked → Bool
  | empty => true
  | leaf _ _ => false
  | look l => l.holds p
  | seq a b => a.nullable p && b.nullable p
  | alt a b => a.nullable p || b.nullable p
  | many m => m.nullable p

def final (p : Place) : Marked → Bool
  | empty => false
  | leaf _ mark => mark
  | look _ => false
  | seq a b => a.final p && b.nullable p || b.final p
  | alt a b => a.final p || b.final p
  | many m => m.final p

def shift (p : Place) (c : Char) (enter : Bool) : Marked → Marked
  | empty => empty
  | leaf set _ => leaf set (enter && set.contains c)
  | look l => look l
  | seq a b =>
    seq (a.shift p c enter) (b.shift p c (enter && a.nullable p || a.final p))
  | alt a b => alt (a.shift p c enter) (b.shift p c enter)
  | many m => many (m.shift p c (enter || m.final p))

/-- Whether a match ends somewhere in the text behind `before`, begun here or earlier. -/
def runs (m : Marked) (before : Option Char) : List Char → Bool
  | [] => let p := ⟨before, none⟩; m.nullable p || m.final p
  | c :: cs =>
    let p := ⟨before, some c⟩
    m.nullable p || m.final p || runs (m.shift p c true) (some c) cs

end Marked

def Expr.unmarked : Expr → Marked
  | empty => .empty
  | chars set => .leaf set false
  | look l => .look l
  | seq a b => .seq a.unmarked b.unmarked
  | alt a b => .alt a.unmarked b.unmarked
  | loop e min max => e.unmarked.repeated min max
  | group e => e.unmarked

end ClassBatch.Regex
