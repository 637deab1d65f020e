import ClassBatch.Proofs.Batch.Records
import ClassBatch.Batch.Report
import Mathlib.Data.List.Perm.Basic

/-! Classes settle in any order. Where each of them is recorded once, the order shows in the list of
durations and in nothing else. -/

namespace ClassBatch

variable {durations others : List Duration}

lemma totalNanos_eq_of_perm (h : durations.Perm others) :
    totalNanos durations = totalNanos others := by
  have : LeftCommutative fun (d : Duration) n => d.toNanos + n :=
    ⟨fun _ _ _ => Nat.add_left_comm _ _ _⟩
  exact h.foldr_eq 0

lemma estimateRemaining_eq_of_perm (h : durations.Perm others) (remaining : Nat) :
    estimateRemaining durations remaining = estimateRemaining others remaining := by
  rw [estimateRemaining, estimateRemaining, totalNanos_eq_of_perm h, h.length_eq, h.isEmpty_eq]

namespace Batch

namespace Ledger

variable {l l' : Ledger} {total : Nat} {calls later : List Entry}

lemma FilledBy.eq_of_perm (h : l.FilledBy total calls) (h' : l'.FilledBy total later)
    (hp : later.Perm calls) : l' = { l with durations := l'.durations } := by
  have hentries : (later.map fun e => (e.name, e.outcome)).Perm
      (calls.map fun e => (e.name, e.outcome)) := hp.map _
  have hresults : l'.results = l.results :=
    h'.ordered.eq_of_perm h.ordered ((h'.results.trans hentries).trans h.results.symm)
  have hfailed : l'.failed = l.failed := by rw [h'.failed, h.failed, hresults]
  have htotal : l'.total = l.total := h'.total_eq.trans h.total_eq.symm
  rw [← hresults, ← hfailed, ← htotal]

lemma progress_eq_of_perm (h : l' = { l with durations := l'.durations })
    (hdurations : l'.durations.Perm l.durations) : l'.progress = l.progress := by
  rw [progress, progress, Progress.of, Progress.of, estimateRemaining_eq_of_perm hdurations, h]
  rfl

end Ledger

namespace Settlement

variable {total : Nat} {calls later : List Entry}

lemma accepted_of_nodup (hnames : (calls.map Entry.name).Nodup) (hroom : calls.length ≤ total) :
    (empty total).accepted calls = calls := by
  induction calls using List.reverseRecOn with
  | nil => rfl
  | append_singleton calls call ih =>
    rw [List.map_append, List.nodup_append] at hnames
    rw [List.length_append, List.length_singleton] at hroom
    obtain ⟨hbefore, -, hnew⟩ := hnames
    have haccepted := ih hbefore (by omega)
    obtain ⟨hfilled, -⟩ := recordAll_filled total calls
    rw [haccepted] at hfilled
    have ha : ((empty total).recordAll calls).ledger.accepts call.name = true := by
      rw [Ledger.accepts_iff, hfilled.keys_perm.mem_iff, hfilled.completed, hfilled.total_eq]
      exact ⟨fun hmem => hnew _ hmem _ List.mem_cons_self rfl, by omega⟩
    rw [accepted_append, haccepted, accepted, answers, record_accepted ha]
    rfl

lemma recordAll_filled_of_nodup (hnames : (calls.map Entry.name).Nodup)
    (hroom : calls.length ≤ total) : ((empty total).recordAll calls).ledger.FilledBy total calls := by
  have hfilled := (recordAll_filled total calls).1
  rwa [accepted_of_nodup hnames hroom] at hfilled

/-- Records of distinct classes, as many as there is room for, leave the same behind in every order:
an outcome for each of them, the same report and the same estimate. -/
theorem ledger_of_reordered (hnames : (calls.map Entry.name).Nodup) (hroom : calls.length ≤ total)
    (hp : later.Perm calls) :
    let l := ((empty total).recordAll calls).ledger
    let l' := ((empty total).recordAll later).ledger
    l'.results = l.results ∧ l'.failed = l.failed ∧ l'.sources = l.sources ∧
    (∀ elapsed, l'.report elapsed = l.report elapsed) ∧
    l'.completed = l.completed ∧ l'.isComplete = l.isComplete ∧ l'.progress = l.progress ∧
    l' = { l with durations := l'.durations } ∧ l'.durations.Perm l.durations ∧
    l.durations = calls.map Entry.duration ∧ l'.durations = later.map Entry.duration ∧
    l.results.Perm (calls.map fun e => (e.name, e.outcome)) := by
  intro l l'
  have hnames' : (later.map Entry.name).Nodup := (hp.map Entry.name).nodup_iff.mpr hnames
  have hfilled : l.FilledBy total calls := recordAll_filled_of_nodup hnames hroom
  have hfilled' : l'.FilledBy total later :=
    recordAll_filled_of_nodup hnames' (hp.length_eq ▸ hroom)
  have heq : l' = { l with durations := l'.durations } := hfilled.eq_of_perm hfilled' hp
  have hdurations : l'.durations.Perm l.durations := by
    rw [hfilled.durations, hfilled'.durations]
    exact hp.map Entry.duration
  refine ⟨?_, ?_, ?_, ?_, ?_, ?_, Ledger.progress_eq_of_perm heq hdurations, heq, hdurations,
    hfilled.durations, hfilled'.durations, hfilled.results⟩
  · rw [heq]
  · rw [heq]
  · rw [heq]
    rfl
  · intro elapsed
    rw [heq]
    rfl
  · rw [heq]
    rfl
  · rw [heq]
    rfl

def mixedRecords : List Entry :=
  [⟨"b/B", .failure "class B" "no such field", .ofSeconds 5⟩,
    ⟨"c/C", .timedOut "class C", .ofSeconds 9⟩, ⟨"a/A", .success "class A", .ofSeconds 2⟩]

theorem ledger_of_reordered_mixed :
    let l := ((empty 4).recordAll mixedRecords).ledger
    let l' := ((empty 4).recordAll mixedRecords.reverse).ledger
    (mixedRecords.map Entry.name).Nodup ∧ mixedRecords.length ≤ 4 ∧ l'.results = l.results ∧
    Names.keys l.results = ["a/A", "b/B", "c/C"] ∧ l'.progress = ⟨3, 4, some ⟨5, 333333333⟩⟩ ∧
    l'.durations ≠ l.durations ∧ l'.durations.Perm l.durations := by
  intro l l'
  have hnames : (mixedRecords.map Entry.name).Nodup := by decide
  have hroom : mixedRecords.length ≤ 4 := by decide
  have hkeys : Names.keys l.results = ["a/A", "b/B", "c/C"] := by decide +kernel
  have heta : l.progress = ⟨3, 4, some ⟨5, 333333333⟩⟩ := by decide +kernel
  obtain ⟨hresults, -, -, -, -, -, hprogress, -, hdurations, -⟩ :=
    ledger_of_reordered hnames hroom (List.reverse_perm mixedRecords)
  exact ⟨hnames, hroom, hresults, hkeys, hprogress.trans heta, by decide +kernel, hdurations⟩

end Settlement

end Batch

end ClassBatch
