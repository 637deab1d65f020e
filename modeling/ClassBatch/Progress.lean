import ClassBatch.Duration

/-! How far a batch has come, and when it can be expected to end. -/

namespace ClassBatch

def maxWord : Nat := UInt64.size - 1

def maxWide : Nat := UInt64.size * UInt64.size - 1

def totalNanos (durations : List Duration) : Nat :=
  durations.foldr (fun d n => d.toNanos + n) 0

def estimateRemaining (durations : List Duration) (remaining : Nat) : Option Duration :=
  if durations.isEmpty then none
  else
    let mean := totalNanos durations / durations.length
    some (Duration.ofNanos (min (min (mean * remaining) maxWide) maxWord))

structure Progress where
  completed : Nat
  total : Nat
  eta : Option Duration
deriving DecidableEq, Repr

namespace Progress

def of (completed total : Nat) (durations : List Duration) : Progress :=
  ⟨completed, total, estimateRemaining durations (total - completed)⟩

def remaining (p : Progress) : Nat :=
  p.total - p.completed

def fraction (p : Progress) : Float :=
  if p.total = 0 then 1.0
  else p.completed.toUInt64.toFloat / p.total.toUInt64.toFloat

def render (p : Progress) : String :=
  "[" ++ toString p.completed ++ "/" ++ toString p.total ++ "] " ++
    match p.eta with
    | some eta => "Estimated remaining time: " ++ eta.clock
    | none => "Remaining time: Unknown"

end Progress

end ClassBatch
