import ClassBatch.Duration

/-! How many workers a batch has, and how long each class may take. -/

namespace ClassBatch.Batch

structure Config where
  workers : Nat
  timeout : Duration
deriving DecidableEq, Repr

namespace Config

def default : Config :=
  ⟨2, Duration.ofSeconds 10⟩

def minTimeout : Duration :=
  Duration.ofSeconds 1

/-- At least one worker and at most `parallelism`, and a timeout of a second or more. -/
def clamped (parallelism : Nat) (c : Config) : Config :=
  ⟨max 1 (min c.workers parallelism),
    if c.timeout.toNanos < minTimeout.toNanos then minTimeout else c.timeout⟩

def ofSeconds (parallelism workers : Nat) (seconds : UInt64) : Config :=
  clamped parallelism ⟨workers, Duration.ofSeconds seconds⟩

end Config

end ClassBatch.Batch
