/-! The decompilers that can be chosen. -/

namespace ClassBatch

inductive Decompiler
  | cfr
  | fernflower
deriving DecidableEq, Repr

namespace Decompiler

def default : Decompiler :=
  cfr

def name : Decompiler → String
  | cfr => "cfr"
  | fernflower => "fernflower"

def ofName? (name : String) : Option Decompiler :=
  if name = "cfr" then some cfr else if name = "fernflower" then some fernflower else none

end Decompiler

end ClassBatch
