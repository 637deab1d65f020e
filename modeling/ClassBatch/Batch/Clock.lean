import ClassBatch.Duration

/-! Readings of a clock, in nanoseconds. A clock holds up to `2^63` seconds. -/

namespace ClassBatch.Batch

def clockEnd : Nat :=
  UInt64.size / 2 * 1000000000

def after? (reading : Nat) (d : Duration) : Option Nat :=
  if reading + d.toNanos < clockEnd then some (reading + d.toNanos) else none

def deadlines? (timeout : Duration) (submissions : List Nat) : Option (List Nat) :=
  submissions.mapM (after? · timeout)

end ClassBatch.Batch
