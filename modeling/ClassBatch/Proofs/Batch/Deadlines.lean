import ClassBatch.Batch.Course
import ClassBatch.Proofs.Names

/-! Timeouts are bounded from below only. A batch starts if its clock holds the deadline of every class,
and that is not so for every timeout. -/

namespace ClassBatch.Batch

variable {σ : Type}

lemma deadlines?_eq_ite (timeout : Duration) (submissions : List Nat) :
    deadlines? timeout submissions =
      if ∀ now ∈ submissions, now + timeout.toNanos < clockEnd then
        some (submissions.map (· + timeout.toNanos))
      else none := by
  induction submissions with
  | nil => rfl
  | cons now submissions ih =>
    rw [deadlines?, List.mapM_cons, ← deadlines?, ih, after?]
    by_cases hnow : now + timeout.toNanos < clockEnd
    · simp only [List.forall_mem_cons, hnow, true_and, if_true]
      split <;> rfl
    · simp only [List.forall_mem_cons, hnow, false_and, if_false]
      rfl

lemma Config.toNanos_clamped (parallelism : Nat) (c : Config) :
    (c.clamped parallelism).timeout.toNanos = max c.timeout.toNanos Config.minTimeout.toNanos := by
  dsimp only [clamped]
  by_cases h : c.timeout.toNanos < minTimeout.toNanos
  · rw [if_pos h, max_eq_right h.le]
  · rw [if_neg h, max_eq_left (not_lt.mp h)]

lemma Names.sorted_eq_nil_iff {names : List String} : Names.sorted names = [] ↔ names = [] := by
  simp only [List.eq_nil_iff_forall_not_mem, Names.mem_sorted]

namespace Course

lemma run_eq_clock_iff (b : Backend σ) (config : Config) (callbacks : Callbacks) (abort : Bool)
    (now : Nat) (names : List String) (state : σ) :
    (run b config callbacks abort now names state).1 = .error .clock ↔
      (b.create 0 state).1 = .ok () ∧ names ≠ [] ∧ clockEnd ≤ now + config.timeout.toNanos := by
  rw [run]
  rcases b.create 0 state with ⟨cause | ⟨⟩, state⟩
  · simp
  · rw [deadlines?_eq_ite]
    by_cases hnames : names = []
    · subst hnames
      simp [Names.sorted]
    · have hsorted := mt Names.sorted_eq_nil_iff.mp hnames
      obtain ⟨name, hname⟩ := List.exists_mem_of_ne_nil _ hsorted
      by_cases hclock : now + config.timeout.toNanos < clockEnd
      · rw [if_pos (by simpa using fun _ => hclock)]
        simp [hclock]
      · rw [if_neg fun h => hclock (h now (List.mem_map_of_mem hname))]
        simpa [hnames] using hclock

end Course

/-- Every deadline of a batch is held if the clock has room for the timeout at each submission, and the
batch fails to start if it has none. No bound on the timeout is set anywhere before. -/
theorem deadlines_held_iff (parallelism : Nat) (c : Config) :
    (∀ submissions, deadlines? (c.clamped parallelism).timeout submissions =
      if ∀ now ∈ submissions, now + max c.timeout.toNanos 1000000000 < clockEnd then
        some (submissions.map (· + max c.timeout.toNanos 1000000000))
      else none) ∧
    (∀ (b : Backend σ) (callbacks : Callbacks) (abort : Bool) (now : Nat) (names : List String)
      (state : σ), (Course.run b (c.clamped parallelism) callbacks abort now names state).1 =
          .error .clock ↔
        (b.create 0 state).1 = .ok () ∧ names ≠ [] ∧
          clockEnd ≤ now + max c.timeout.toNanos 1000000000) ∧
    ∀ (workers : Nat) (seconds : UInt64) (now : Nat),
      after? now (Config.ofSeconds parallelism workers seconds).timeout = none ↔
        clockEnd ≤ now + max seconds.toNat 1 * 1000000000 := by
  have hclamped := Config.toNanos_clamped parallelism c
  have hmin : Config.minTimeout.toNanos = 1000000000 := by decide
  rw [hmin] at hclamped
  refine ⟨fun submissions => ?_, fun b callbacks abort now names state => ?_,
    fun workers seconds now => ?_⟩
  · rw [deadlines?_eq_ite, hclamped]
  · rw [Course.run_eq_clock_iff, hclamped]
  · have hseconds : (Duration.ofSeconds seconds).toNanos = seconds.toNat * 1000000000 := by
      simp [Duration.ofSeconds, Duration.toNanos]
    rw [after?, Config.ofSeconds, Config.toNanos_clamped, hmin]
    dsimp only
    rw [hseconds]
    split <;> simp <;> omega

def obliging : Backend Unit where
  fresh := false
  create _ state := (.ok (), state)
  call _ name state := (some (.source name), state)

theorem longest_timeout_not_held :
    deadlines? (Config.ofSeconds 1 1 18446744073709551615).timeout [0] = none ∧
      (Course.run obliging (Config.ofSeconds 1 1 18446744073709551615) {} false 0 ["a/A"] ()).1 =
        .error .clock := by
  have hconfig : (Config.ofSeconds 1 1 18446744073709551615).timeout.toNanos =
      18446744073709551615 * 1000000000 := by decide
  refine ⟨by decide, Course.run_eq_clock_iff .. |>.mpr ⟨rfl, List.cons_ne_nil _ _, ?_⟩⟩
  rw [hconfig]
  decide

end ClassBatch.Batch
