import ClassBatch.Regex.ByteRanges
import ClassBatch.Regex.Syntax

/-!
The size of the automaton of an expression over bytes, forward with its groups and backward
without them. A state takes 32 bytes, a transition out of a branching state 8 and an alternative
4. Expressions whose automaton is too large are refused before anything is built.
-/

namespace ClassBatch.Regex

open Unicode

def stateSize : Nat := 32
def transitionSize : Nat := 8
def alternativeSize : Nat := 4

structure Cost where
  bytes : Nat
  endsOpen : Bool := false
deriving DecidableEq, Repr

def Cost.connect (c : Cost) : Nat :=
  if c.endsOpen then alternativeSize else 0

abbrev Node := List (Nat × Nat × Nat)

def internNode (node : Node) (seen : List Node) : Nat × List Node :=
  match seen.findIdx? (· == node) with
  | some i => (seen.length - i, seen)
  | none => (seen.length + 1, node :: seen)

def groupByHead : List (List (Nat × Nat)) → List ((Nat × Nat) × List (List (Nat × Nat)))
  | [] => []
  | [] :: rest => groupByHead rest
  | (head :: tail) :: rest =>
    match groupByHead rest with
    | (other, tails) :: groups =>
      if other = head then (other, tail :: tails) :: groups
      else (head, [tail]) :: (other, tails) :: groups
    | [] => [(head, [tail])]

def internSequences : Nat → List (List (Nat × Nat)) → List Node → Nat × List Node
  | 0, _, seen => (0, seen)
  | depth + 1, seqs, seen =>
    if seqs.all List.isEmpty then (0, seen)
    else
      let (node, seen) := (groupByHead seqs).foldl
        (fun (node, seen) ((lo, hi), tails) =>
          let (child, seen) := internSequences depth tails seen
          (node ++ [(lo, hi, child)], seen))
        (([] : Node), seen)
      internNode node seen

def isAsciiSet (s : CharSet) : Bool :=
  s.all fun r => r.hi < 0x80

def forwardSet (s : CharSet) : Nat :=
  let nodes := (internSequences 4 (byteSequences s) []).2
  nodes.foldl (fun size node => size + stateSize + transitionSize * node.length) stateSize

def endingSlots : Nat := 1000

def endingSlot (next : Nat) (r : Nat × Nat) : Nat :=
  let mix (h : UInt64) (n : Nat) : UInt64 := (h ^^^ UInt64.ofNat n) * 1099511628211
  (mix (mix (mix 14695981039346656037 next) r.1) r.2).toNat % endingSlots

structure Endings where
  states : Nat := 1
  slots : Array (Option ((Nat × Nat × Nat) × Nat)) := Array.replicate endingSlots none

def Endings.add (e : Endings) (seq : List (Nat × Nat)) : Endings :=
  (seq.foldl (fun (state : Endings × Nat) r =>
    let (e, next) := state
    let slot := endingSlot next r
    match e.slots[slot]?.join with
    | some (key, found) =>
      if key = (next, r) then (e, found)
      else
        let fresh := e.states + 1
        ({ states := fresh, slots := e.slots.setIfInBounds slot (some ((next, r), fresh)) }, fresh)
    | none =>
      let fresh := e.states + 1
      ({ states := fresh, slots := e.slots.setIfInBounds slot (some ((next, r), fresh)) }, fresh))
    (e, 1)).1

def backwardSet (s : CharSet) : Nat :=
  let seqs := byteSequences s
  let endings := seqs.foldl Endings.add {}
  stateSize * (endings.states + 1) + alternativeSize * seqs.length

def setCost (backward : Bool) (s : CharSet) : Cost :=
  match s with
  | [] => ⟨stateSize, false⟩
  | [r] =>
    if r.lo = r.hi then ⟨stateSize * byteCount r.lo, false⟩
    else if isAsciiSet s then ⟨2 * stateSize + transitionSize, false⟩
    else ⟨if backward then backwardSet s else forwardSet s, false⟩
  | s =>
    if isAsciiSet s then ⟨2 * stateSize + transitionSize * s.length, false⟩
    else ⟨if backward then backwardSet s else forwardSet s, false⟩

def Cost.copies (c : Cost) (n : Nat) : Cost :=
  if n = 0 then ⟨stateSize, false⟩
  else ⟨n * c.bytes + (n - 1) * c.connect, c.endsOpen⟩

def Cost.repeated (c : Cost) (consumes : Bool) (min : Nat) : Option Nat → Cost
  | none =>
    if min = 0 then
      if consumes then ⟨c.bytes + stateSize + alternativeSize + c.connect, true⟩
      else ⟨c.bytes + 3 * stateSize + 4 * alternativeSize + c.connect, false⟩
    else if min = 1 then ⟨c.bytes + stateSize + alternativeSize + c.connect, true⟩
    else
      let front := c.copies (min - 1)
      ⟨front.bytes + c.bytes + stateSize + alternativeSize + front.connect + c.connect, true⟩
  | some max =>
    if min = 0 ∧ max = 1 then
      ⟨c.bytes + 2 * stateSize + 2 * alternativeSize + c.connect, false⟩
    else if min = max then c.copies min
    else
      let front := c.copies min
      let count := max - min
      ⟨front.bytes + stateSize + count * (c.bytes + stateSize + 2 * alternativeSize) +
        front.connect + count * c.connect, false⟩

namespace Expr

mutual

def cost (backward : Bool) : Expr → Cost
  | empty => ⟨stateSize, false⟩
  | look _ => ⟨stateSize, false⟩
  | chars set => setCost backward set
  | seq a b =>
    let first := if backward then b.cost backward else a.cost backward
    let second := if backward then a.cost backward else b.cost backward
    ⟨first.bytes + first.connect + second.bytes, second.endsOpen⟩
  | alt a b =>
    ⟨2 * stateSize + a.branchesCost backward + b.branchesCost backward, false⟩
  | loop e min max => (e.cost backward).repeated e.consumes min max
  | group e =>
    let body := e.cost backward
    if backward then body else ⟨body.bytes + body.connect + 2 * stateSize, false⟩

def branchesCost (backward : Bool) : Expr → Nat
  | alt a b => a.branchesCost backward + b.branchesCost backward
  | empty => stateSize + alternativeSize
  | look _ => stateSize + alternativeSize
  | chars set => (setCost backward set).bytes + alternativeSize
  | seq a b =>
    let first := if backward then b.cost backward else a.cost backward
    let second := if backward then a.cost backward else b.cost backward
    first.bytes + first.connect + second.bytes + second.connect + alternativeSize
  | loop e min max =>
    let c := (e.cost backward).repeated e.consumes min max
    c.bytes + c.connect + alternativeSize
  | group e =>
    let body := e.cost backward
    (if backward then body.bytes else body.bytes + 2 * stateSize) + body.connect + alternativeSize

end

def anchored (backward : Bool) : Expr → Bool
  | look l => if backward then l == .stop else l == .start
  | seq a b =>
    if backward then b.anchored backward || (b.isTrivial && a.anchored backward)
    else a.anchored backward || (a.isTrivial && b.anchored backward)
  | alt a b => a.anchored backward && b.anchored backward
  | group e => e.anchored backward
  | _ => false

/-- The size of the whole automaton in one direction. -/
def automatonSize (backward : Bool) (e : Expr) : Nat :=
  let body := e.cost backward
  let start :=
    if e.anchored backward then stateSize
    else 3 * stateSize + transitionSize + 2 * alternativeSize
  let groups := if backward then 0 else 2 * stateSize
  start + body.bytes + body.connect + groups + stateSize

end Expr

def maxAutomatonSize : Nat := 10 * 1024 * 1024

def Expr.fits (e : Expr) : Bool :=
  e.automatonSize false ≤ maxAutomatonSize && e.automatonSize true ≤ maxAutomatonSize

end ClassBatch.Regex
