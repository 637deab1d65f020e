import ClassBatch.Batch.Report
import ClassBatch.Proofs.Batch.Records

/-! The counts, the failures and the sources of a ledger are three views of its results, and they
agree whatever was recorded before. -/

namespace ClassBatch.Batch

namespace Outcome

def reason? : Outcome → Option String
  | success _ => none
  | failure _ cause => some cause
  | timedOut _ => some "timed out"

def placeholder? : Outcome → Option String
  | success _ => none
  | failure placeholder _ => some placeholder
  | timedOut placeholder => some placeholder

variable {o : Outcome} {text reason : String}

lemma reason?_eq_some_iff : o.reason? = some reason ↔
    (∃ placeholder, o = .failure placeholder reason) ∨
      ∃ placeholder, o = .timedOut placeholder ∧ reason = "timed out" := by
  cases o <;> simp [reason?, eq_comm]

lemma placeholder?_eq_some_iff : o.placeholder? = some text ↔
    o.isFailed = true ∧ o.source = text := by
  cases o <;> simp [placeholder?, isFailed, source]

end Outcome

namespace Report

def failure? (result : String × Outcome) : Option (String × String) :=
  result.2.reason?.map fun reason => (result.1, reason)

@[simp] lemma failure?_success (name text : String) : failure? (name, .success text) = none := rfl

@[simp] lemma failure?_failure (name placeholder cause : String) :
    failure? (name, .failure placeholder cause) = some (name, cause) := rfl

@[simp] lemma failure?_timedOut (name placeholder : String) :
    failure? (name, .timedOut placeholder) = some (name, "timed out") := rfl

lemma foldl_count (r : Report) (results : List (String × Outcome)) :
    results.foldl count r = { r with
      succeeded := r.succeeded + results.countP (·.2 matches .success _)
      failed := r.failed + results.countP (·.2 matches .failure _ _)
      timedOut := r.timedOut + results.countP (·.2 matches .timedOut _)
      failures := r.failures ++ results.filterMap failure? } := by
  induction results generalizing r with
  | nil => simp
  | cons result results ih =>
    obtain ⟨name, outcome⟩ := result
    rw [List.foldl_cons, ih]
    cases outcome <;> simp [count, List.filterMap_cons] <;> omega

lemma countP_matches (results : List (String × Outcome)) :
    results.countP (·.2 matches .success _) + results.countP (·.2 matches .failure _ _) +
      results.countP (·.2 matches .timedOut _) = results.length := by
  induction results with
  | nil => rfl
  | cons result results ih =>
    obtain ⟨name, outcome⟩ := result
    cases outcome <;> simp <;> omega

lemma length_filterMap_failure? (results : List (String × Outcome)) :
    (results.filterMap failure?).length =
      results.countP (·.2 matches .failure _ _) + results.countP (·.2 matches .timedOut _) := by
  induction results with
  | nil => rfl
  | cons result results ih =>
    obtain ⟨name, outcome⟩ := result
    cases outcome <;> simp [List.filterMap_cons, ih] <;> omega

lemma keys_filterMap_failure? (results : List (String × Outcome)) :
    Names.keys (results.filterMap failure?) =
      Names.keys (results.filter fun result => result.2.isFailed) := by
  induction results with
  | nil => rfl
  | cons result results ih =>
    rw [Names.keys, Names.keys] at ih ⊢
    obtain ⟨name, outcome⟩ := result
    cases outcome <;> simp [List.filterMap_cons, Outcome.isFailed, ih]

end Report

namespace Ledger

variable {l : Ledger} {total : Nat} {entries : List Entry}

lemma report_eq (l : Ledger) (elapsed : Duration) : l.report elapsed =
    { total := l.total
      succeeded := l.results.countP (·.2 matches .success _)
      failed := l.results.countP (·.2 matches .failure _ _)
      timedOut := l.results.countP (·.2 matches .timedOut _)
      elapsedMillis := min elapsed.toMillis maxWord
      failures := l.results.filterMap Report.failure?
      output := none } := by
  rw [report, Report.foldl_count]
  simp

lemma keys_sources (l : Ledger) : Names.keys l.sources = Names.keys l.results := by
  rw [Names.keys, sources, List.map_map]
  rfl

lemma mem_failures_iff {name reason : String} (elapsed : Duration) :
    (name, reason) ∈ (l.report elapsed).failures ↔
      ∃ outcome, (name, outcome) ∈ l.results ∧ outcome.reason? = some reason := by
  rw [report_eq, List.mem_filterMap]
  simp only [Report.failure?, Option.map_eq_some_iff, Prod.mk.injEq, Prod.exists]
  constructor
  · rintro ⟨_, outcome, hresult, reason, hreason, rfl, rfl⟩
    exact ⟨outcome, hresult, hreason⟩
  · rintro ⟨outcome, hresult, hreason⟩
    exact ⟨name, outcome, hresult, reason, hreason, rfl, rfl⟩

lemma FilledBy.keys_failures (h : l.FilledBy total entries) (elapsed : Duration) :
    Names.keys (l.report elapsed).failures = l.failed := by
  rw [report_eq, Report.keys_filterMap_failure?, h.failed]

lemma mem_failed_iff_placeholder {name text : String} (h : l.FilledBy total entries)
    (hsource : (name, text) ∈ l.sources) : name ∈ l.failed ↔
      ∃ outcome, (name, outcome) ∈ l.results ∧ outcome.placeholder? = some text := by
  obtain ⟨⟨_, outcome⟩, hresult, he⟩ := List.mem_map.mp hsource
  obtain ⟨rfl, rfl⟩ := Prod.mk.inj he
  rw [h.failed, Names.mem_keys_filter]
  constructor
  · rintro ⟨other, hother, hfailed⟩
    obtain rfl : other = outcome :=
      (Prod.mk.inj (List.inj_on_of_nodup_map h.ordered.nodup hother hresult rfl)).2
    exact ⟨other, hother, Outcome.placeholder?_eq_some_iff.mpr ⟨hfailed, rfl⟩⟩
  · rintro ⟨other, hother, hplaceholder⟩
    exact ⟨other, hother, (Outcome.placeholder?_eq_some_iff.mp hplaceholder).1⟩

end Ledger

/-- The report, the failed classes and the sources tell of the same results, complete or not. -/
theorem report_accounts (total : Nat) (calls : List Entry) (elapsed : Duration) :
    let l := ((Settlement.empty total).recordAll calls).ledger
    let r := l.report elapsed
    r.total = total ∧
    r.succeeded = l.results.countP (·.2 matches .success _) ∧
    r.failed = l.results.countP (·.2 matches .failure _ _) ∧
    r.timedOut = l.results.countP (·.2 matches .timedOut _) ∧
    r.succeeded + r.failed + r.timedOut = l.results.length ∧ l.results.length ≤ total ∧
    (r.succeeded + r.failed + r.timedOut = total ↔ l.isComplete = true) ∧
    Names.keys r.failures = l.failed ∧ Names.Ordered (Names.keys r.failures) ∧
    r.failures.length = r.failed + r.timedOut ∧
    (∀ name reason, (name, reason) ∈ r.failures ↔ ∃ outcome, (name, outcome) ∈ l.results ∧
      ((∃ placeholder, outcome = .failure placeholder reason) ∨
        ∃ placeholder, outcome = .timedOut placeholder ∧ reason = "timed out")) ∧
    Names.keys l.sources = Names.keys l.results ∧
    ∀ name text, (name, text) ∈ l.sources → (name ∈ Names.keys r.failures ↔
      ∃ outcome, (name, outcome) ∈ l.results ∧ outcome.placeholder? = some text) := by
  intro l r
  obtain ⟨hfilled, -⟩ := Settlement.recordAll_filled total calls
  have hreport : r = _ := l.report_eq elapsed
  have hkeys : Names.keys r.failures = l.failed := hfilled.keys_failures elapsed
  have hsum : r.succeeded + r.failed + r.timedOut = l.results.length := by
    rw [hreport]
    exact Report.countP_matches l.results
  have hbounded : l.completed ≤ total := by
    rw [hfilled.completed]
    exact hfilled.bounded
  have hcomplete : l.results.length = total ↔ l.isComplete = true := by
    rw [Ledger.isComplete_iff, hfilled.total_eq]
    rfl
  have hordered : Names.Ordered l.failed := by
    rw [hfilled.failed]
    exact hfilled.ordered.filter _
  refine ⟨?_, ?_, ?_, ?_, hsum, hbounded, hsum ▸ hcomplete, hkeys, hkeys ▸ hordered, ?_, ?_,
    l.keys_sources, ?_⟩
  · rw [hreport]
    exact hfilled.total_eq
  · rw [hreport]
  · rw [hreport]
  · rw [hreport]
  · rw [hreport]
    exact Report.length_filterMap_failure? l.results
  · intro name reason
    rw [Ledger.mem_failures_iff]
    simp only [Outcome.reason?_eq_some_iff]
  · intro name text hsource
    rw [hkeys]
    exact Ledger.mem_failed_iff_placeholder hfilled hsource

end ClassBatch.Batch
