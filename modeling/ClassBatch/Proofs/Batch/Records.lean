import ClassBatch.Batch.Settlement
import ClassBatch.Proofs.Batch.Ledger
import Mathlib.Data.Finite.Defs
import Mathlib.Data.Set.Finite.Basic

/-! A ledger under any sequence of records, accepted or refused. -/

namespace ClassBatch.Batch.Settlement

def recordAll (s : Settlement) (calls : List Entry) : Settlement :=
  calls.foldl (fun s call => (s.record call.name call.outcome call.duration).2) s

def answers : Settlement → List Entry → List (Entry × Option Progress)
  | _, [] => []
  | s, call :: calls =>
    (call, (s.record call.name call.outcome call.duration).1) ::
      (s.record call.name call.outcome call.duration).2.answers calls

def accepted (s : Settlement) (calls : List Entry) : List Entry :=
  (s.answers calls).filterMap fun answer => answer.2.map fun _ => answer.1

def returned (s : Settlement) (calls : List Entry) : List Progress :=
  (s.answers calls).filterMap Prod.snd

variable {s : Settlement} {name : String} {outcome : Outcome} {duration : Duration}

lemma record_accepted (h : s.ledger.accepts name = true) :
    s.record name outcome duration = (some (s.ledger.enter name outcome duration).progress,
      { s with ledger := s.ledger.enter name outcome duration }) := by
  rw [record, Ledger.record?, if_pos h]

lemma record_refused (h : s.ledger.accepts name = false) :
    s.record name outcome duration = (none, s) := by
  rw [record, Ledger.record?, if_neg (by rw [h]; exact Bool.false_ne_true)]

lemma record_isSome : (s.record name outcome duration).1.isSome = s.ledger.accepts name := by
  cases h : s.ledger.accepts name with
  | true => rw [record_accepted h]; rfl
  | false => rw [record_refused h]; rfl

lemma results_subset_record :
    s.ledger.results ⊆ (s.record name outcome duration).2.ledger.results := by
  cases h : s.ledger.accepts name with
  | true =>
    rw [record_accepted h]
    intro r hr
    exact (Names.mem_put (Ledger.accepts_iff.mp h).1).mpr (Or.inr hr)
  | false =>
    rw [record_refused h]
    exact List.Subset.refl _

lemma recordAll_append (s : Settlement) (calls later : List Entry) :
    s.recordAll (calls ++ later) = (s.recordAll calls).recordAll later :=
  List.foldl_append

lemma recordAll_concat (s : Settlement) (calls : List Entry) (call : Entry) :
    s.recordAll (calls ++ [call]) =
      ((s.recordAll calls).record call.name call.outcome call.duration).2 :=
  recordAll_append s calls [call]

lemma answers_append (s : Settlement) (calls later : List Entry) :
    s.answers (calls ++ later) = s.answers calls ++ (s.recordAll calls).answers later := by
  induction calls generalizing s with
  | nil => rfl
  | cons call calls ih =>
    rw [List.cons_append, answers, ih, answers, List.cons_append]
    rfl

lemma accepted_append (s : Settlement) (calls later : List Entry) :
    s.accepted (calls ++ later) = s.accepted calls ++ (s.recordAll calls).accepted later := by
  rw [accepted, answers_append, List.filterMap_append]
  rfl

lemma returned_append (s : Settlement) (calls later : List Entry) :
    s.returned (calls ++ later) = s.returned calls ++ (s.recordAll calls).returned later := by
  rw [returned, answers_append, List.filterMap_append]
  rfl

lemma recordAll_filled (total : Nat) (calls : List Entry) :
    ((empty total).recordAll calls).ledger.FilledBy total ((empty total).accepted calls) ∧
      (empty total).returned calls =
        reportsOf total (((empty total).accepted calls).map Entry.duration) := by
  induction calls using List.reverseRecOn with
  | nil => exact ⟨.empty total, rfl⟩
  | append_singleton calls call ih =>
    obtain ⟨hfilled, hreturned⟩ := ih
    rw [recordAll_concat, accepted_append, returned_append]
    cases ha : ((empty total).recordAll calls).ledger.accepts call.name with
    | true =>
      simp only [accepted, returned, answers, record_accepted ha, List.filterMap_cons,
        Option.map_some, List.filterMap_nil]
      refine ⟨hfilled.enter call.outcome call.duration ha, ?_⟩
      have hreport := hfilled.progress_enter call.outcome call.duration ha
      simp only [accepted, returned] at hreturned hreport
      rw [List.map_append, hreturned, List.map_singleton, hreport]
    | false =>
      simp only [accepted, returned, answers, record_refused ha, List.filterMap_cons,
        Option.map_none, List.filterMap_nil, List.append_nil]
      exact ⟨hfilled, hreturned⟩

lemma exists_fresh (names : List String) : ∃ name : String, name ∉ names := by
  have hlen : Function.Injective fun n : Nat => String.ofList (List.replicate n 'a') := by
    intro m n h
    simpa using congrArg (fun text : String => text.toList.length) h
  have : Infinite String := Infinite.of_injective _ hlen
  exact Infinite.exists_notMem_finset names.toFinset |>.imp fun name h =>
    fun hm => h (List.mem_toFinset.mpr hm)

lemma results_subset_recordAll (s : Settlement) (calls : List Entry) :
    s.ledger.results ⊆ (s.recordAll calls).ledger.results := by
  induction calls generalizing s with
  | nil => exact List.Subset.refl _
  | cons call calls ih => exact List.Subset.trans results_subset_record (ih _)

lemma isComplete_iff_refuses {total : Nat} {entries : List Entry}
    (h : s.ledger.FilledBy total entries) :
    s.ledger.isComplete = true ↔ ∀ call : Entry, call.name ∉ Names.keys s.ledger.results →
      (s.record call.name call.outcome call.duration).1 = none := by
  rw [Ledger.isComplete_iff]
  constructor
  · intro hc call _
    have ha : s.ledger.accepts call.name = false := by
      rw [Bool.eq_false_iff]
      intro ha
      have hroom := (Ledger.accepts_iff.mp ha).2
      omega
    rw [record_refused ha]
  · intro hr
    obtain ⟨name, hn⟩ := exists_fresh (Names.keys s.ledger.results)
    by_contra hc
    have hroom : s.ledger.completed < s.ledger.total := by
      have hb := h.bounded
      rw [← h.completed, ← h.total_eq] at hb
      omega
    -- There is room, so that an unused name would be accepted.
    have ha := Ledger.accepts_iff.mpr ⟨hn, hroom⟩
    have hnone := hr ⟨name, .success "", Duration.ofSeconds 0⟩ hn
    rw [record_accepted ha] at hnone
    exact Option.some_ne_none _ hnone

/-- What any sequence of records leaves behind: there is a result for each accepted record and for
nothing else, the first one for a class stays, and the three collections are in step. -/
theorem ledger_after_records (total : Nat) (calls : List Entry) :
    let s := (empty total).recordAll calls
    let entries := (empty total).accepted calls
    s.ledger.results.length ≤ total ∧
    (∀ name, name ∈ s.ledger.failed ↔
      ∃ outcome, (name, outcome) ∈ s.ledger.results ∧ ∀ source, outcome ≠ .success source) ∧
    s.ledger.durations = entries.map Entry.duration ∧
    s.ledger.durations.length = s.ledger.results.length ∧
    (Names.keys s.ledger.results).Nodup ∧
    (∀ name outcome, (name, outcome) ∈ s.ledger.results ↔
      (entries.find? fun e => e.name = name).map Entry.outcome = some outcome) ∧
    (∀ later, s.ledger.results ⊆ (s.recordAll later).ledger.results) ∧
    (∀ call : Entry, (s.record call.name call.outcome call.duration).1.isSome = true ↔
      call.name ∉ Names.keys s.ledger.results ∧ s.ledger.results.length < total) ∧
    (∀ call : Entry, (s.record call.name call.outcome call.duration).1 = none →
      (s.record call.name call.outcome call.duration).2 = s) ∧
    (empty total).returned calls = reportsOf total s.ledger.durations ∧
    (∀ k (h : k < ((empty total).returned calls).length),
      (((empty total).returned calls)[k]).remaining = total - (k + 1)) ∧
    (s.ledger.isComplete = true ↔ ∀ call : Entry, call.name ∉ Names.keys s.ledger.results →
      (s.record call.name call.outcome call.duration).1 = none) := by
  intro s entries
  obtain ⟨hfilled, hreturned⟩ := recordAll_filled total calls
  have hresults : s.ledger.results.length = entries.length := hfilled.completed
  have htotal : s.ledger.total = total := hfilled.total_eq
  refine ⟨hresults ▸ hfilled.bounded, fun _ => hfilled.mem_failed, hfilled.durations,
    hfilled.durations_length, hfilled.ordered.nodup, fun _ _ => hfilled.mem_results_iff_find?,
    results_subset_recordAll s, ?_, ?_, ?_, ?_, isComplete_iff_refuses hfilled⟩
  · intro call
    rw [record_isSome, Ledger.accepts_iff, htotal]
    rfl
  · intro call hnone
    cases ha : s.ledger.accepts call.name with
    | true => rw [record_accepted ha] at hnone; exact absurd hnone (Option.some_ne_none _)
    | false => rw [record_refused ha]
  · rw [hreturned, hfilled.durations]
  · intro k hk
    simp only [hreturned, reportsOf, List.getElem_map, List.getElem_range, Progress.remaining]

end ClassBatch.Batch.Settlement
