/-! Requests to stop a task. A token and its copies share one flag, which is raised once. -/

namespace ClassBatch.Batch

structure Tokens where
  flags : List Bool := []
deriving DecidableEq, Repr

namespace Tokens

def fresh (t : Tokens) : Nat × Tokens :=
  (t.flags.length, ⟨t.flags ++ [false]⟩)

def cancel (t : Tokens) (token : Nat) : Tokens :=
  ⟨t.flags.set token true⟩

def isCancelled (t : Tokens) (token : Nat) : Bool :=
  t.flags[token]?.getD false

end Tokens

end ClassBatch.Batch
