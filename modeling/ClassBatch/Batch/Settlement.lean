import ClassBatch.Batch.Ledger

/-!
Settling classes from several sides. Whoever raises the flag of a class first enters its outcome;
every later attempt leaves the ledger alone.
-/

namespace ClassBatch.Batch

structure Settlement where
  ledger : Ledger
  flags : List String := []
deriving Repr

namespace Settlement

def empty (total : Nat) : Settlement :=
  { ledger := Ledger.empty total }

def isSettled (s : Settlement) (name : String) : Bool :=
  s.flags.contains name

def trySettle (s : Settlement) (name : String) : Bool × Settlement :=
  if s.isSettled name then (false, s) else (true, { s with flags := name :: s.flags })

def record (s : Settlement) (name : String) (outcome : Outcome) (duration : Duration) :
    Option Progress × Settlement :=
  match s.ledger.record? name outcome duration with
  | some ledger => (some ledger.progress, { s with ledger })
  | none => (none, s)

def settle (s : Settlement) (name : String) (outcome : Outcome) (duration : Duration) :
    Bool × Option Progress × Settlement :=
  match s.trySettle name with
  | (false, s) => (false, none, s)
  | (true, s) => (true, s.record name outcome duration)

end Settlement

end ClassBatch.Batch
