import ClassBatch.Proofs.Batch.Orders
import Mathlib.Algebra.Order.BigOperators.Group.List
import Mathlib.Algebra.Order.Ring.Nat
import Mathlib.Data.Finset.Max

/-! The estimate of the remaining time is a mean: bounded, exact and independent of the order. -/

namespace ClassBatch

variable {durations : List Duration} {remaining n : Nat}

section Words

def wide? (n : Nat) : Option Nat :=
  if n ≤ maxWide then some n else none

def quotient? (n k : Nat) : Option Nat :=
  if k = 0 then none else some (n / k)

def addWide? (sum : Nat) (d : Duration) : Option Nat := do
  let nanos ← wide? d.toNanos
  wide? (sum + nanos)

def wideTotal? (durations : List Duration) : Option Nat :=
  durations.foldlM addWide? 0

def estimateWide? (durations : List Duration) (remaining : Nat) : Option (Option Duration) :=
  if durations.isEmpty then some none
  else do
    let total ← wideTotal? durations
    let mean ← quotient? total durations.length
    let product := if mean * remaining ≤ maxWide then mean * remaining else maxWide
    return some (.ofNanos (if product ≤ maxWord then product else maxWord))

end Words

lemma wide?_of_le (h : n ≤ maxWide) : wide? n = some n :=
  if_pos h

lemma maxWord_eq : maxWord = 18446744073709551615 :=
  rfl

lemma maxWide_eq : maxWide = 340282366920938463463374607431768211455 :=
  rfl

lemma nanos_lt (d : Duration) : d.toNanos < 18446744073709551616000000000 :=
  d.toNanos_lt

lemma totalNanos_cons (d : Duration) (durations : List Duration) :
    totalNanos (d :: durations) = d.toNanos + totalNanos durations :=
  rfl

lemma totalNanos_eq_sum (durations : List Duration) :
    totalNanos durations = (durations.map Duration.toNanos).sum := by
  induction durations with
  | nil => rfl
  | cons d durations ih => rw [totalNanos_cons, ih, List.map_cons, List.sum_cons]

lemma addWide?_eq {sum : Nat} {d : Duration} (h : sum + d.toNanos ≤ maxWide) :
    addWide? sum d = some (sum + d.toNanos) := by
  have hd : d.toNanos ≤ maxWide := Nat.le_trans (Nat.le_add_left _ _) h
  rw [addWide?, wide?_of_le hd, Option.bind_eq_bind, Option.bind_some, wide?_of_le h]

lemma foldlM_addWide? {sum : Nat}
    (h : sum + durations.length * 18446744073709551616000000000 ≤ maxWide) :
    durations.foldlM addWide? sum = some (sum + totalNanos durations) := by
  induction durations generalizing sum with
  | nil => rfl
  | cons d durations ih =>
    have hd := nanos_lt d
    rw [List.length_cons] at h
    rw [List.foldlM_cons, addWide?_eq (by omega), totalNanos_cons, ← Nat.add_assoc]
    exact ih (by omega)

lemma wideTotal?_eq (h : durations.length < 2 ^ 34) :
    wideTotal? durations = some (totalNanos durations) := by
  have hroom : 0 + durations.length * 18446744073709551616000000000 ≤ maxWide := by
    rw [maxWide_eq]
    omega
  rw [wideTotal?, foldlM_addWide? hroom, Nat.zero_add]

lemma estimateRemaining_eq (h : durations ≠ []) (remaining : Nat) :
    estimateRemaining durations remaining =
      some (.ofNanos (min (totalNanos durations / durations.length * remaining) maxWord)) := by
  have hcaps : ∀ n, min (min n maxWide) maxWord = min n maxWord := by
    intro n
    rw [maxWide_eq, maxWord_eq]
    omega
  rw [estimateRemaining, if_neg (by simpa using h)]
  exact congrArg (some ∘ Duration.ofNanos) (hcaps _)

lemma estimateWide?_eq (h : durations ≠ []) (hfew : durations.length < 2 ^ 34) (remaining : Nat) :
    estimateWide? durations remaining = some (estimateRemaining durations remaining) := by
  have hlength : durations.length ≠ 0 := by simpa using h
  have hquotient : quotient? (totalNanos durations) durations.length =
      some (totalNanos durations / durations.length) := if_neg hlength
  rw [estimateWide?, estimateRemaining, if_neg (by simpa using h), if_neg (by simpa using h),
    wideTotal?_eq hfew]
  simp only [Option.bind_eq_bind, Option.bind_some, hquotient, Option.pure_def, Nat.min_def]

lemma toNanos_ofNanos_min (n : Nat) :
    (Duration.ofNanos (min n maxWord)).toNanos = min n maxWord := by
  apply Duration.toNanos_ofNanos
  have hsize : UInt64.size * 1000000000 = 18446744073709551616000000000 := rfl
  rw [hsize, maxWord_eq]
  omega

lemma le_mean (h : durations ≠ []) (hn : ∀ d ∈ durations, n ≤ d.toNanos) :
    n ≤ totalNanos durations / durations.length := by
  rw [Nat.le_div_iff_mul_le (List.length_pos_iff.mpr h), totalNanos_eq_sum, Nat.mul_comm]
  simpa using List.card_nsmul_le_sum (durations.map Duration.toNanos) n (by simpa using hn)

lemma mean_le (hn : ∀ d ∈ durations, d.toNanos ≤ n) :
    totalNanos durations / durations.length ≤ n := by
  apply Nat.div_le_of_le_mul
  rw [totalNanos_eq_sum]
  simpa using List.sum_le_card_nsmul (durations.map Duration.toNanos) n (by simpa using hn)

lemma totalNanos_le_set {i : Nat} {d longer : Duration} (hd : durations[i]? = some d)
    (hle : d.toNanos ≤ longer.toNanos) :
    totalNanos durations ≤ totalNanos (durations.set i longer) := by
  induction durations generalizing i with
  | nil => simp at hd
  | cons first durations ih =>
    cases i with
    | zero =>
      obtain rfl : first = d := by simpa using hd
      simpa [totalNanos_cons] using hle
    | succ i =>
      have hrest := ih (by simpa using hd)
      simpa [totalNanos_cons] using hrest

lemma exists_shortest_longest (h : durations ≠ []) :
    ∃ shortest ∈ durations, ∃ longest ∈ durations,
      ∀ d ∈ durations, shortest.toNanos ≤ d.toNanos ∧ d.toNanos ≤ longest.toNanos := by
  have hne : durations.toFinset.Nonempty := by simpa using h
  obtain ⟨shortest, hshortest, hmin⟩ := durations.toFinset.exists_min_image Duration.toNanos hne
  obtain ⟨longest, hlongest, hmax⟩ := durations.toFinset.exists_max_image Duration.toNanos hne
  simp only [List.mem_toFinset] at hshortest hlongest hmin hmax
  exact ⟨shortest, hshortest, longest, hlongest, fun d hd => ⟨hmin d hd, hmax d hd⟩⟩

/-- The estimate is the mean of the durations for each class that is left, up to the largest word.
No step on the way to it overflows. -/
theorem estimate_is_capped_mean (h : durations ≠ []) (hfew : durations.length < 2 ^ 34)
    (remaining : Nat) :
    estimateWide? durations remaining = some (estimateRemaining durations remaining) ∧
    ∃ eta, estimateRemaining durations remaining = some eta ∧
      eta.toNanos = min ((durations.map Duration.toNanos).sum / durations.length * remaining)
        (2 ^ 64 - 1) ∧
      (∃ shortest ∈ durations, ∃ longest ∈ durations,
        (∀ d ∈ durations, shortest.toNanos ≤ d.toNanos ∧ d.toNanos ≤ longest.toNanos) ∧
        min (remaining * shortest.toNanos) (2 ^ 64 - 1) ≤ eta.toNanos ∧
        eta.toNanos ≤ min (remaining * longest.toNanos) (2 ^ 64 - 1)) ∧
      (∀ others, others.Perm durations → estimateRemaining others remaining = some eta) ∧
      (∀ more, remaining ≤ more → ∃ later, estimateRemaining durations more = some later ∧
        eta.toNanos ≤ later.toNanos) ∧
      (∀ i d longer, durations[i]? = some d → d.toNanos ≤ longer.toNanos →
        ∃ later, estimateRemaining (durations.set i longer) remaining = some later ∧
          eta.toNanos ≤ later.toNanos) ∧
      (remaining = 0 → eta = .ofSeconds 0) ∧
      ∀ completed total, (Progress.of completed total durations).remaining = remaining →
        (Progress.of completed total durations).eta = some eta := by
  have heta := estimateRemaining_eq h remaining
  have hnanos := toNanos_ofNanos_min (totalNanos durations / durations.length * remaining)
  have hword : (2 ^ 64 - 1 : Nat) = maxWord := rfl
  rw [hword]
  refine ⟨estimateWide?_eq h hfew remaining, _, heta, ?_, ?_, ?_, ?_, ?_, ?_, ?_⟩
  · rw [hnanos, totalNanos_eq_sum]
  · obtain ⟨shortest, hshortest, longest, hlongest, hbounds⟩ := exists_shortest_longest h
    have hlow := le_mean h fun d hd => (hbounds d hd).1
    have hhigh := mean_le fun d hd => (hbounds d hd).2
    refine ⟨shortest, hshortest, longest, hlongest, hbounds, ?_, ?_⟩
    · rw [hnanos, Nat.mul_comm remaining]
      exact min_le_min_right _ (Nat.mul_le_mul_right _ hlow)
    · rw [hnanos, Nat.mul_comm remaining]
      exact min_le_min_right _ (Nat.mul_le_mul_right _ hhigh)
  · intro others hperm
    rw [estimateRemaining_eq_of_perm hperm, heta]
  · intro more hmore
    refine ⟨_, estimateRemaining_eq h more, ?_⟩
    rw [hnanos, toNanos_ofNanos_min]
    exact min_le_min_right _ (Nat.mul_le_mul_left _ hmore)
  · intro i d longer hd hle
    have hset : durations.set i longer ≠ [] := by simpa using h
    refine ⟨_, estimateRemaining_eq hset remaining, ?_⟩
    rw [hnanos, toNanos_ofNanos_min, List.length_set]
    have hmean := Nat.div_le_div_right (c := durations.length) (totalNanos_le_set hd hle)
    exact min_le_min_right _ (Nat.mul_le_mul_right _ hmean)
  · rintro rfl
    rw [Nat.mul_zero, Nat.zero_min]
    rfl
  · rintro completed total rfl
    exact heta

theorem estimate_is_capped_mean_of_uneven :
    let durations : List Duration := [⟨2, 1⟩, ⟨4, 0⟩, ⟨0, 5000000⟩]
    durations ≠ [] ∧ durations.length < 2 ^ 34 ∧
    (∃ eta, estimateRemaining durations 8 = some eta ∧ eta.toNanos = 16013333336) ∧
    ∃ eta, estimateRemaining [⟨2, 1⟩, ⟨18446744073709551615, 999999999⟩] 2 = some eta ∧
      eta.toNanos = 18446744073709551615 := by
  intro durations
  have hne : durations ≠ [] := by decide
  have hfew : durations.length < 2 ^ 34 := by decide
  obtain ⟨-, eta, heta, hmean, -⟩ := estimate_is_capped_mean hne hfew 8
  have hlong : ([⟨2, 1⟩, ⟨18446744073709551615, 999999999⟩] : List Duration) ≠ [] := by decide
  obtain ⟨-, capped, hcapped, hcap, -⟩ := estimate_is_capped_mean hlong (by decide) 2
  exact ⟨hne, hfew, ⟨eta, heta, hmean.trans (by decide)⟩, capped, hcapped, hcap.trans (by decide)⟩

end ClassBatch
