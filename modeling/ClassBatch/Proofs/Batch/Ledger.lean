import ClassBatch.Batch.Ledger
import ClassBatch.Proofs.Names

/-! A ledger tells the history of its entries: which they were, in which order their durations
became known, and which of them have no source. -/

namespace ClassBatch.Batch

structure Entry where
  name : String
  outcome : Outcome
  duration : Duration
deriving DecidableEq, Repr

def reportsOf (total : Nat) (durations : List Duration) : List Progress :=
  (List.range durations.length).map fun k =>
    ⟨k + 1, total, estimateRemaining (durations.take (k + 1)) (total - (k + 1))⟩

lemma reportsOf_concat (total : Nat) (durations : List Duration) (duration : Duration) :
    reportsOf total (durations ++ [duration]) = reportsOf total durations ++
      [Progress.of (durations.length + 1) total (durations ++ [duration])] := by
  have hlen : (durations ++ [duration]).length = durations.length + 1 := by simp
  simp only [reportsOf, hlen, List.range_succ, List.map_append, List.map_cons, List.map_nil]
  congr 1
  · apply List.map_congr_left
    intro k hk
    have hk := List.mem_range.mp hk
    rw [List.take_append_of_le_length (by omega)]
  · rw [Progress.of, List.take_of_length_le (by omega)]

namespace Ledger

lemma accepts_iff {l : Ledger} {name : String} :
    l.accepts name = true ↔ name ∉ Names.keys l.results ∧ l.completed < l.total := by
  simp only [accepts, Bool.and_eq_true, Bool.not_eq_true', decide_eq_true_eq,
    List.contains_eq_mem, decide_eq_false_iff_not]

lemma isComplete_iff {l : Ledger} : l.isComplete = true ↔ l.completed = l.total :=
  beq_iff_eq

structure FilledBy (l : Ledger) (total : Nat) (entries : List Entry) : Prop where
  total_eq : l.total = total
  bounded : entries.length ≤ total
  ordered : Names.Ordered (Names.keys l.results)
  results : l.results.Perm (entries.map fun e => (e.name, e.outcome))
  failed : l.failed = Names.keys (l.results.filter fun r => r.2.isFailed)
  durations : l.durations = entries.map Entry.duration

namespace FilledBy

variable {l : Ledger} {total : Nat} {entries : List Entry}

lemma empty (total : Nat) : (Ledger.empty total).FilledBy total [] where
  total_eq := rfl
  bounded := Nat.zero_le total
  ordered := List.Pairwise.nil
  results := List.Perm.refl []
  failed := rfl
  durations := rfl

lemma completed (h : l.FilledBy total entries) : l.completed = entries.length := by
  rw [Ledger.completed, h.results.length_eq, List.length_map]

lemma durations_length (h : l.FilledBy total entries) : l.durations.length = l.completed := by
  rw [h.durations, List.length_map, h.completed]

lemma keys_perm (h : l.FilledBy total entries) :
    (Names.keys l.results).Perm (entries.map Entry.name) := by
  have hfst := h.results.map Prod.fst
  rw [List.map_map] at hfst
  exact hfst

lemma names_nodup (h : l.FilledBy total entries) : (entries.map Entry.name).Nodup :=
  h.keys_perm.nodup_iff.mp h.ordered.nodup

lemma mem_results (h : l.FilledBy total entries) {name : String} {outcome : Outcome} :
    (name, outcome) ∈ l.results ↔ ∃ e ∈ entries, e.name = name ∧ e.outcome = outcome := by
  rw [h.results.mem_iff, List.mem_map]
  simp only [Prod.mk.injEq]

lemma mem_results_iff_find? (h : l.FilledBy total entries) {name : String} {outcome : Outcome} :
    (name, outcome) ∈ l.results ↔
      (entries.find? fun e => e.name = name).map Entry.outcome = some outcome := by
  rw [h.mem_results, Option.map_eq_some_iff]
  constructor
  · rintro ⟨e, he, rfl, rfl⟩
    obtain ⟨first, hf⟩ : ∃ first, (entries.find? fun e' => e'.name = e.name) = some first :=
      Option.isSome_iff_exists.mp (List.find?_isSome.mpr ⟨e, he, decide_eq_true rfl⟩)
    have hname : first.name = e.name := by simpa using List.find?_some hf
    have heq := List.inj_on_of_nodup_map h.names_nodup (List.mem_of_find?_eq_some hf) he hname
    exact ⟨first, hf, congrArg Entry.outcome heq⟩
  · rintro ⟨e, hf, rfl⟩
    exact ⟨e, List.mem_of_find?_eq_some hf, by simpa using List.find?_some hf, rfl⟩

lemma mem_failed (h : l.FilledBy total entries) {name : String} :
    name ∈ l.failed ↔
      ∃ outcome, (name, outcome) ∈ l.results ∧ ∀ source, outcome ≠ .success source := by
  rw [h.failed, Names.mem_keys_filter]
  apply exists_congr
  intro outcome
  cases outcome <;> simp [Outcome.isFailed]

lemma enter {name : String} (outcome : Outcome) (duration : Duration)
    (h : l.FilledBy total entries) (ha : l.accepts name = true) :
    (l.enter name outcome duration).FilledBy total (entries ++ [⟨name, outcome, duration⟩]) := by
  obtain ⟨hnew, hroom⟩ := accepts_iff.mp ha
  have hput := Names.put_perm outcome hnew
  refine ⟨h.total_eq, ?_, ?_, ?_, ?_, ?_⟩
  · rw [h.completed, h.total_eq] at hroom
    rw [List.length_append, List.length_singleton]
    omega
  · rw [Ledger.enter, Names.keys_put]
    exact Names.insert_ordered name h.ordered
  · rw [List.map_append]
    exact (hput.trans (h.results.cons _)).trans (List.perm_append_singleton _ _).symm
  · simp only [Ledger.enter, h.failed]
    exact (Names.keys_filter_put outcome Outcome.isFailed h.ordered hnew).symm
  · simp only [Ledger.enter, h.durations, List.map_append, List.map_cons, List.map_nil]

lemma progress_enter {name : String} (outcome : Outcome) (duration : Duration)
    (h : l.FilledBy total entries) (ha : l.accepts name = true) :
    reportsOf total ((entries.map Entry.duration) ++ [duration]) =
      reportsOf total (entries.map Entry.duration) ++
        [(l.enter name outcome duration).progress] := by
  have h' := h.enter outcome duration ha
  rw [reportsOf_concat, Ledger.progress, h'.completed, h'.durations, h'.total_eq]
  simp only [List.length_map, List.map_append, List.length_append, List.map_cons, List.map_nil,
    List.length_singleton]

end FilledBy

end Ledger

end ClassBatch.Batch
