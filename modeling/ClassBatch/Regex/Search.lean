import ClassBatch.Regex.Marked
import ClassBatch.Regex.Parser
import ClassBatch.Regex.Size

/-! Searching texts for matches of an expression. -/

namespace ClassBatch.Regex

def Expr.occursIn (e : Expr) (text : List Char) : Bool :=
  e.unmarked.runs none text

/-- Reads an expression and refuses one whose automaton would be too large. -/
def compile? (expression : String) : Option Expr :=
  (parse? expression.toList).filter Expr.fits

end ClassBatch.Regex
