import ClassBatch.Batch.Outcome
import ClassBatch.Names
import ClassBatch.Progress

/-!
The ledger of a batch: one outcome for each settled class, the names of those without a source,
and how long each took. An entry is written once and never replaced, and there are never more
entries than classes.
-/

namespace ClassBatch.Batch

structure Ledger where
  total : Nat
  results : List (String × Outcome) := []
  failed : List String := []
  durations : List Duration := []
deriving DecidableEq, Repr

namespace Ledger

def empty (total : Nat) : Ledger :=
  { total }

def completed (l : Ledger) : Nat :=
  l.results.length

def isComplete (l : Ledger) : Bool :=
  l.completed == l.total

def progress (l : Ledger) : Progress :=
  Progress.of l.completed l.total l.durations

def accepts (l : Ledger) (name : String) : Bool :=
  !(Names.keys l.results).contains name && l.completed < l.total

def enter (l : Ledger) (name : String) (outcome : Outcome) (duration : Duration) : Ledger :=
  { l with
    results := Names.put name outcome l.results
    failed := if outcome.isFailed then Names.insert name l.failed else l.failed
    durations := l.durations ++ [duration] }

def record? (l : Ledger) (name : String) (outcome : Outcome) (duration : Duration) :
    Option Ledger :=
  if l.accepts name then some (l.enter name outcome duration) else none

def sources (l : Ledger) : List (String × String) :=
  l.results.map fun (name, outcome) => (name, outcome.source)

end Ledger

end ClassBatch.Batch
