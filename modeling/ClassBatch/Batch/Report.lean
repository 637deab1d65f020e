import ClassBatch.Batch.Ledger
import ClassBatch.Text.Json

/-! The summary of a batch and its text. -/

namespace ClassBatch.Batch

structure Report where
  total : Nat
  succeeded : Nat
  failed : Nat
  timedOut : Nat
  elapsedMillis : Nat
  failures : List (String × String)
  output : Option String
deriving DecidableEq, Repr

namespace Report

def count (r : Report) : String × Outcome → Report
  | (_, .success _) => { r with succeeded := r.succeeded + 1 }
  | (name, .failure _ cause) =>
    { r with failed := r.failed + 1, failures := r.failures ++ [(name, cause)] }
  | (name, .timedOut _) =>
    { r with timedOut := r.timedOut + 1, failures := r.failures ++ [(name, "timed out")] }

open Text in
def toJson (r : Report) : Json :=
  .record [
    ("total", .number r.total),
    ("succeeded", .number r.succeeded),
    ("failed", .number r.failed),
    ("timed_out", .number r.timedOut),
    ("elapsed_ms", .number r.elapsedMillis),
    ("failures", .list (r.failures.map fun (name, reason) =>
      .record [("class_name", .text name), ("reason", .text reason)])),
    ("output", (r.output.map Json.text).getD .null)]

def render (r : Report) : String :=
  r.toJson.pretty

end Report

def Ledger.report (l : Ledger) (elapsed : Duration) : Report :=
  l.results.foldl Report.count ⟨l.total, 0, 0, 0, min elapsed.toMillis maxWord, [], none⟩

end ClassBatch.Batch
