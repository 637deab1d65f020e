/-! What becomes of one class. -/

namespace ClassBatch.Batch

inductive Outcome
  | success (source : String)
  | failure (placeholder cause : String)
  | timedOut (placeholder : String)
deriving DecidableEq, Repr

namespace Outcome

def source : Outcome → String
  | success text => text
  | failure placeholder _ => placeholder
  | timedOut placeholder => placeholder

def isFailed : Outcome → Bool
  | success _ => false
  | _ => true

end Outcome

end ClassBatch.Batch
