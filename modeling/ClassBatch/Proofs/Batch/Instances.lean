import ClassBatch.Proofs.Batch.Answering

/-! The instances of a backend. If every task needs its own, no instance is called twice and the
first, which was made before the batch, not at all; otherwise the first serves all calls. -/

namespace ClassBatch.Batch

def Work.holds (n : Nat) : Work → Bool
  | .equipped backend => backend == n
  | _ => false

namespace System

variable {s s' s₁ : System} {t t' : Task} {action : Action} {name : String} {panics : Bool}
  {attempt attempt' : Attempt}

def uses (s : System) (n : Nat) : Nat :=
  (s.calls.map Prod.fst).count n + s.tasks.countP fun t => t.work.holds n

def unequipped (s : System) : Nat :=
  s.tasks.countP fun t => t.work == .checked

def passed (s : System) : Nat :=
  s.tasks.countP fun t => t.work.hasPassed

lemma AttemptRule.created (h : AttemptRule s name panics attempt attempt' s') :
    s'.created = s.created := by
  cases h with
  | tell _ => rw [tell_eq]
  | _ => rfl

lemma WatchRule.created (h : WatchRule s action s') : s'.created = s.created := by
  cases h with
  | signalAbort _ _ =>
    change s.tell.created = s.created
    rw [tell_eq]
  | sweepNext name _ _ =>
    change (s.cancelUnsettled name).created = s.created
    rw [cancelUnsettled_eq]
  | _ => rfl

lemma WatchRule.works (hs : (s.tasks.map Task.name).Nodup) (h : WatchRule s action s') :
    s'.tasks.map Task.work = s.tasks.map Task.work := by
  cases h with
  | signalAbort _ _ => exact congrArg (List.map Task.work) s.tell_tasks
  | sweepNext name _ _ =>
    change (s.cancelUnsettled name).tasks.map Task.work = _
    rw [cancelUnsettled_tasks hs, List.map_map]
    apply List.map_congr_left
    intro t _
    simp only [Function.comp_apply]
    split <;> rfl
  | _ => rfl

lemma WatchRule.counts (hs : (s.tasks.map Task.name).Nodup) (h : WatchRule s action s') :
    s'.unequipped = s.unequipped ∧ s'.passed = s.passed ∧ ∀ n, s'.uses n = s.uses n := by
  have hcount (p : Work → Bool) :
      s'.tasks.countP (fun t => p t.work) = s.tasks.countP fun t => p t.work := by
    have hmap (tasks : List Task) :
        tasks.countP (fun t => p t.work) = (tasks.map Task.work).countP p := by
      rw [List.countP_map]
      rfl
    rw [hmap, hmap, h.works hs]
  refine ⟨hcount fun work => work == .checked, hcount Work.hasPassed, fun n => ?_⟩
  rw [uses, uses, h.calls, hcount (Work.holds n)]

lemma uses_setTask (hs : (s.tasks.map Task.name).Nodup) (ht : t ∈ s.tasks)
    (hr : TaskRule s t action t' s₁) (n : Nat) :
    (s₁.setTask t').uses n + (t.work.holds n).toNat + (s.calls.map Prod.fst).count n =
      s.uses n + (t'.work.holds n).toNat + (s₁.calls.map Prod.fst).count n := by
  have h₁ := hr.tasks
  have hcount := countP_setTask (h₁ ▸ hs) (h₁ ▸ ht) hr.name_eq fun t => t.work.holds n
  rw [h₁] at hcount
  change (s₁.calls.map Prod.fst).count n + _ + _ + _ = _
  unfold uses
  omega

lemma TaskRule.uses_cases (hs : (s.tasks.map Task.name).Nodup) (ht : t ∈ s.tasks)
    (hr : TaskRule s t action t' s₁) :
    (∀ n, (s₁.setTask t').uses n = s.uses n) ∨
      ∃ m, (∀ n, (s₁.setTask t').uses n = s.uses n + (m == n).toNat) ∧
        (s.fresh = true ∧ m = s.created ∧ s₁.created = s.created + 1 ∨
          s.fresh = false ∧ m = 0) := by
  have huses (n : Nat) := uses_setTask hs ht hr n
  -- Most steps have no instance at hand before and after.
  have keep (h : ∀ n, t.work.holds n = t'.work.holds n) (h₁ : s₁.calls = s.calls) (n : Nat) :
      (s₁.setTask t').uses n = s.uses n := by
    have hn := huses n
    rw [h, h₁] at hn
    omega
  cases hr with
  | create hw hf =>
    refine Or.inr ⟨s.created, fun n => ?_, Or.inl ⟨hf, rfl, rfl⟩⟩
    have hn := huses n
    rw [hw] at hn
    simp only [Work.holds, Bool.toNat_false] at hn
    omega
  | share creation hw hf =>
    refine Or.inr ⟨0, fun n => ?_, Or.inr ⟨hf, rfl⟩⟩
    have hn := huses n
    rw [hw] at hn
    simp only [Work.holds, Bool.toNat_false] at hn
    omega
  | call backend hw =>
    -- The instance at hand is the one that is called.
    refine Or.inl fun n => ?_
    have hn := huses n
    rw [hw] at hn
    simp only [Work.holds, Bool.toNat_false, List.map_append, List.map_singleton,
      List.count_append, List.count_singleton] at hn
    cases hb : backend == n <;> rw [hb] at hn
    · simp only [Bool.toNat_false, Bool.false_eq_true, if_false] at hn
      omega
    · simp only [Bool.toNat_true, if_true] at hn
      omega
  | submit hw _ | take hw _ _ | skipSettled hw _ _ | check hw _ | skipCancelled hw _ =>
    exact Or.inl (keep (fun n => by rw [hw]; rfl) rfl)
  | createRefused _ hw _ | createPanicked hw _ | reply _ _ hw | time _ _ hw =>
    exact Or.inl (keep (fun n => by rw [hw]; rfl) rfl)
  | schedule _ _ | fire _ _ _ | cancel _ => exact Or.inl (keep (fun n => rfl) rfl)
  | advanceWorker hw ha => exact Or.inl (keep (fun n => by rw [hw]; rfl) ha.calls)
  | advanceTimer _ ha =>
    exact Or.inl (keep (fun n => by rw [(t.resume_timer _).1]) ha.calls)

lemma TaskRule.created (hr : TaskRule s t action t' s₁) (hf : s.fresh = true) :
    s₁.created + (t'.work == .checked).toNat + t.work.hasPassed.toNat =
      s.created + (t.work == .checked).toNat + t'.work.hasPassed.toNat := by
  cases hr with
  | submit hw _ | take hw _ _ | skipSettled hw _ _ | check hw _ | skipCancelled hw _ =>
    rw [hw]
    rfl
  | create hw _ | createRefused _ hw _ | createPanicked hw _ =>
    rw [hw]
    rfl
  | call _ hw | reply _ _ hw | time _ _ hw =>
    rw [hw]
    rfl
  | share _ _ hshared =>
    rw [hf] at hshared
    cases hshared
  | schedule _ _ | fire _ _ _ | cancel _ => rfl
  | advanceWorker hw ha =>
    rw [hw, ha.created]
    rfl
  | advanceTimer _ ha =>
    rw [(t.resume_timer _).1, ha.created]

lemma TaskRule.created_le (hr : TaskRule s t action t' s₁) :
    s.created ≤ s₁.created ∧ (s.fresh = false → s₁.created = s.created) := by
  have same (h : s₁.created = s.created) :
      s.created ≤ s₁.created ∧ (s.fresh = false → s₁.created = s.created) :=
    ⟨h.ge, fun _ => h⟩
  have more (hf : s.fresh = true) (h : s₁.created = s.created + 1) :
      s.created ≤ s₁.created ∧ (s.fresh = false → s₁.created = s.created) :=
    ⟨h ▸ Nat.le_succ _, fun hshared => by rw [hf] at hshared; cases hshared⟩
  cases hr with
  | create _ hf | createRefused _ _ hf | createPanicked _ hf => exact more hf rfl
  | advanceWorker _ ha | advanceTimer _ ha => exact same ha.created
  | _ => exact same rfl

structure Exclusive (s : System) : Prop where
  fresh : s.fresh = true
  probed : 0 < s.created
  once : ∀ n, s.uses n ≤ 1
  made : ∀ n, s.uses n ≠ 0 → 0 < n ∧ n < s.created
  counted : s.created + s.unequipped = 1 + s.passed

structure Shared (s : System) : Prop where
  fresh : s.fresh = false
  created : s.created = 1
  first : ∀ n, s.uses n ≠ 0 → n = 0

section TaskRule

variable (hs : (s.tasks.map Task.name).Nodup) (ht : t ∈ s.tasks) (hr : TaskRule s t action t' s₁)

include hs ht hr

lemma Exclusive.taskRule (h : s.Exclusive) : (s₁.setTask t').Exclusive := by
  have hcreated := hr.created_le.1
  refine ⟨hr.settings.2.trans h.fresh, h.probed.trans_le hcreated, ?_, ?_, ?_⟩
  · intro n
    rcases hr.uses_cases hs ht with hsame | ⟨m, hnew, ⟨_, rfl, _⟩ | ⟨hf, _⟩⟩
    · exact hsame n ▸ h.once n
    · -- The number of a new instance is not in use.
      have hunused : s.uses s.created = 0 :=
        Decidable.byContradiction fun hx => lt_irrefl _ (h.made _ hx).2
      rw [hnew]
      cases hb : s.created == n with
      | true =>
        rw [← beq_iff_eq.mp hb, hunused]
        exact le_refl 1
      | false => exact h.once n
    · rw [h.fresh] at hf
      cases hf
  · intro n hn
    change 0 < n ∧ n < s₁.created
    rcases hr.uses_cases hs ht with hsame | ⟨m, hnew, ⟨_, rfl, hc⟩ | ⟨hf, _⟩⟩
    · exact (h.made n (hsame n ▸ hn)).imp_right fun hlt => hlt.trans_le hcreated
    · rw [hnew] at hn
      cases hb : s.created == n with
      | true =>
        rw [hc, ← beq_iff_eq.mp hb]
        exact ⟨h.probed, Nat.lt_succ_self _⟩
      | false =>
        rw [hb] at hn
        exact (h.made n hn).imp_right fun hlt => hlt.trans_le hcreated
    · rw [h.fresh] at hf
      cases hf
  · have h₁ := hr.tasks
    have hcreated := hr.created h.fresh
    have hunequipped := countP_setTask (h₁ ▸ hs) (h₁ ▸ ht) hr.name_eq fun t => t.work == .checked
    have hpassed := countP_setTask (h₁ ▸ hs) (h₁ ▸ ht) hr.name_eq fun t => t.work.hasPassed
    have hcounted := h.counted
    rw [h₁] at hunequipped hpassed
    unfold unequipped passed at hcounted ⊢
    change s₁.created + _ = _
    omega

lemma Shared.taskRule (h : s.Shared) : (s₁.setTask t').Shared := by
  refine ⟨hr.settings.2.trans h.fresh, (hr.created_le.2 h.fresh).trans h.created, fun n hn => ?_⟩
  rcases hr.uses_cases hs ht with hsame | ⟨m, hnew, ⟨hf, _⟩ | ⟨_, rfl⟩⟩
  · exact h.first n (hsame n ▸ hn)
  · rw [h.fresh] at hf
    cases hf
  · rw [hnew] at hn
    cases hb : 0 == n with
    | true => exact (beq_iff_eq.mp hb).symm
    | false =>
      rw [hb] at hn
      exact h.first n hn

end TaskRule

lemma Exclusive.step (h : s.Exclusive) (hs : (s.tasks.map Task.name).Nodup)
    (hstep : s.step action = some s') : s'.Exclusive := by
  rcases rule_of_step hstep with ⟨t, ht, t', s₁, hr, rfl⟩ | hr
  · exact h.taskRule hs ht hr
  · obtain ⟨hunequipped, hpassed, huses⟩ := hr.counts hs
    refine ⟨hr.settings.2.trans h.fresh, hr.created ▸ h.probed, fun n => huses n ▸ h.once n,
      fun n hn => ?_, ?_⟩
    · rw [hr.created]
      exact h.made n (huses n ▸ hn)
    · rw [hr.created, hunequipped, hpassed]
      exact h.counted

lemma Shared.step (h : s.Shared) (hs : (s.tasks.map Task.name).Nodup)
    (hstep : s.step action = some s') : s'.Shared := by
  rcases rule_of_step hstep with ⟨t, ht, t', s₁, hr, rfl⟩ | hr
  · exact h.taskRule hs ht hr
  · obtain ⟨_, _, huses⟩ := hr.counts hs
    exact ⟨hr.settings.2.trans h.fresh, hr.created.trans h.created,
      fun n hn => h.first n (huses n ▸ hn)⟩

lemma countP_initial (config : Config) (fresh : Bool) (names : List String) {p : Work → Bool}
    (hp : p .unsubmitted = false) :
    (initial config fresh names).tasks.countP (fun t => p t.work) = 0 := by
  simp [initial, List.countP_map, Function.comp_def, hp]

lemma uses_initial (config : Config) (fresh : Bool) (names : List String) (n : Nat) :
    (initial config fresh names).uses n = 0 := by
  rw [uses, countP_initial config fresh names rfl]
  rfl

lemma uses_pos {n : Nat} (h : n ∈ s.calls.map Prod.fst) : s.uses n ≠ 0 := by
  have hcount := List.count_pos_iff.mpr h
  unfold uses
  omega

section Reachable

variable {config : Config} {names : List String} {actions : List Action}

lemma Run.exclusive (h : Run (initial config true names) actions s) : s.Exclusive := by
  induction h with
  | nil =>
    refine ⟨rfl, Nat.one_pos, fun n => ?_, fun n hn => ?_, ?_⟩
    · rw [uses_initial]
      exact Nat.zero_le 1
    · exact absurd (uses_initial config true names n) hn
    · rw [unequipped, System.passed, countP_initial config true names rfl,
        countP_initial config true names (p := fun work => work == .checked) rfl]
      rfl
  | concat hrun hstep ih => exact ih.step hrun.sound.nodup hstep

lemma Run.shared (h : Run (initial config false names) actions s) : s.Shared := by
  induction h with
  | nil => exact ⟨rfl, rfl, fun n hn => absurd (uses_initial config false names n) hn⟩
  | concat hrun hstep ih => exact ih.step hrun.sound.nodup hstep

lemma Exclusive.calls_nodup (h : s.Exclusive) : (s.calls.map Prod.fst).Nodup := by
  rw [List.nodup_iff_count_le_one]
  intro n
  have honce := h.once n
  unfold uses at honce
  omega

end Reachable

/-- If every task needs a backend of its own, no instance is called twice and the first one not at
all, one instance is asked for by every worker that gets past its checks, and a refusal is a failure
of that class alone. Otherwise one instance is made, and it serves all calls. -/
theorem instances_exclusive_or_shared (config : Config) (fresh : Bool) (names : List String)
    (actions : List Action) (s : System)
    (h : (initial config fresh names).steps actions = some s) :
    (fresh = true →
      (s.calls.map Prod.fst).Nodup ∧ (∀ n ∈ s.calls.map Prod.fst, 0 < n ∧ n < s.created) ∧
      s.created + s.unequipped = 1 + s.passed ∧
      (∀ name cause, .equip name (.refused cause) ∈ actions →
        let failure := Outcome.failure (Source.failureStub name) cause.message
        ∃ t ∈ s.tasks, t.name = name ∧ (t.work = .answered failure ∨
          ∃ attempt, t.work = .settling attempt ∧
            attempt.Carries s.settlement.ledger.results name failure)) ∧
      ∀ name outcome, (name, outcome) ∈ s.settlement.ledger.results →
        outcome = .timedOut (Source.timeoutStub name) ∨ heard true actions name outcome) ∧
    (fresh = false → s.created = 1 ∧ ∀ n ∈ s.calls.map Prod.fst, n = 0) := by
  have hrun := run_of_steps h
  refine ⟨?_, ?_⟩
  · rintro rfl
    have hexclusive := hrun.exclusive
    refine ⟨hexclusive.calls_nodup, fun n hn => hexclusive.made n (uses_pos hn),
      hexclusive.counted, fun name cause hm => ?_, fun name outcome hm => ?_⟩
    · obtain ⟨t, ht, rfl⟩ := hrun.named hm rfl
      exact ⟨t, ht, rfl, (hrun.hearing.tasks t ht).settles ⟨_, hm, .refusal cause rfl⟩⟩
    · exact hrun.hearing.heard_of_result hrun.sound hm
  · rintro rfl
    have hshared := hrun.shared
    exact ⟨hshared.created, fun n hn => hshared.first n (uses_pos hn)⟩

def parting : List Action :=
  [.submit "a/A", .schedule "a/A", .submit "b/B", .schedule "b/B", .launch, .take "a/A",
    .check "a/A", .take "b/B", .check "b/B", .equip "a/A" (.refused (.noOutput "a/A")),
    .equip "b/B" .made, .call "b/B", .time "a/A" (Duration.ofSeconds 1)] ++
    List.replicate 3 (.advance .worker "a/A" false)

theorem instances_exclusive_when_refused :
    ∃ s, (initial ⟨2, Duration.ofSeconds 5⟩ true ["a/A", "b/B"]).steps parting = some s ∧
      s.calls = [(2, "b/B")] ∧ s.created = 3 ∧ s.unequipped = 0 ∧ s.passed = 2 ∧
      (s.calls.map Prod.fst).Nodup ∧ s.created + s.unequipped = 1 + s.passed ∧
      ∀ name outcome, (name, outcome) ∈ s.settlement.ledger.results →
        outcome = .timedOut (Source.timeoutStub name) ∨ heard true parting name outcome := by
  have hfinal : ((initial ⟨2, Duration.ofSeconds 5⟩ true ["a/A", "b/B"]).steps parting).any
      (fun s => s.calls = [(2, "b/B")] ∧ s.created = 3 ∧ s.unequipped = 0 ∧
        s.passed = 2) = true := by decide
  obtain ⟨s, hs, hfinal⟩ := (Option.any_eq_true _ _).mp hfinal
  obtain ⟨hcalls, hcreated, hunequipped, hpassed⟩ := of_decide_eq_true hfinal
  obtain ⟨hnodup, _, hcounted, _, hresults⟩ :=
    (instances_exclusive_or_shared _ true _ parting s hs).1 rfl
  exact ⟨s, hs, hcalls, hcreated, hunequipped, hpassed, hnodup, hcounted, hresults⟩

end System

end ClassBatch.Batch
