import ClassBatch.Proofs.Batch.Phases

/-! The calls of backends. A worker calls the backend for a task once, and not at all if its checks
find the task settled or cancelled. -/

namespace ClassBatch.Batch

def Work.isUncalled : Work → Bool
  | .unsubmitted | .queued | .taken | .checked | .equipped _ | .skipped => true
  | _ => false

namespace Task

def isBarred (t : Task) (settled : Bool) : Bool :=
  match t.work with
  | .unsubmitted | .queued => settled || t.cancelled
  | .taken => t.cancelled
  | .skipped => true
  | _ => false

variable {t : Task} {settled settled' : Bool}

lemma resume_timer (t : Task) (attempt : Attempt) :
    (t.resume .timer attempt).work = t.work ∧
      (t.resume .timer attempt).cancelled = t.cancelled := by
  cases attempt with
  | «over» settled => cases settled <;> exact ⟨rfl, rfl⟩
  | _ => exact ⟨rfl, rfl⟩

lemma isUncalled_of_isBarred (h : t.isBarred settled = true) : t.work.isUncalled = true := by
  unfold isBarred at h
  cases hw : t.work with
  | unsubmitted | queued | taken | skipped => rfl
  | _ =>
    rw [hw] at h
    cases h

lemma isBarred_mono (h : t.isBarred settled = true) (hs : settled = true → settled' = true)
    {cancelled : Bool} (hc : t.cancelled = true → cancelled = true) :
    { t with cancelled }.isBarred settled' = true := by
  unfold isBarred at h ⊢
  cases hw : t.work with
  | unsubmitted | queued =>
    simp only [hw, Bool.or_eq_true] at h
    exact Bool.or_eq_true _ _ ▸ h.imp hs hc
  | taken =>
    simp only [hw] at h
    exact hc h
  | skipped => rfl
  | _ =>
    rw [hw] at h
    cases h

end Task

namespace System

variable {s s' s₁ : System} {t t' u : Task} {action : Action} {name : String}
  {attempt attempt' : Attempt} {panics : Bool}

lemma TaskRule.name_eq (h : TaskRule s t action t' s₁) : t'.name = t.name := by
  cases h with
  | advanceWorker _ _ | advanceTimer _ _ => exact t.resume_name _ _
  | _ => rfl

lemma cancelUnsettled_tasks (hs : (s.tasks.map Task.name).Nodup) (name : String) :
    (s.cancelUnsettled name).tasks = s.tasks.map fun t =>
      if t.name = name ∧ s.settlement.isSettled name = false then { t with cancelled := true }
      else t := by
  unfold cancelUnsettled
  cases hf : s.settlement.isSettled name with
  | true => simp
  | false =>
    simp only [Bool.false_eq_true, if_false, and_true]
    cases ht : s.task? name with
    | none =>
      have hne := List.find?_eq_none.mp ht
      refine (List.map_id' s.tasks).symm.trans (List.map_congr_left ?_)
      intro u hu
      exact (if_neg fun hn => hne u hu (decide_eq_true hn)).symm
    | some t =>
      obtain ⟨hm, rfl⟩ := task?_eq_some ht
      apply List.map_congr_left
      intro u hu
      by_cases hn : u.name = t.name
      · rw [if_pos hn, if_pos hn, eq_of_name_eq hs hu hm hn]
      · rw [if_neg hn, if_neg hn]

lemma task_origin (hs : (s.tasks.map Task.name).Nodup) (hstep : s.step action = some s')
    (hu : u ∈ s'.tasks) :
    u ∈ s.tasks ∨ (∃ t ∈ s.tasks, ∃ s₁, TaskRule s t action u s₁ ∧ s' = s₁.setTask u) ∨
      ∃ t ∈ s.tasks, ∃ names, s.watch = .sweeping (t.name :: names) ∧
        s.settlement.isSettled t.name = false ∧ u = { t with cancelled := true } := by
  rcases rule_of_step hstep with ⟨t, ht, t', s₁, hr, rfl⟩ | hr
  · rcases mem_setTask hu with rfl | hu
    · exact Or.inr (Or.inl ⟨t, ht, s₁, hr, rfl⟩)
    · exact Or.inl (hr.tasks ▸ hu)
  · cases hr with
    | sweepNext name names hw =>
      change u ∈ (s.cancelUnsettled name).tasks at hu
      rw [cancelUnsettled_tasks hs, List.mem_map] at hu
      obtain ⟨t, ht, rfl⟩ := hu
      split
      · rename_i hf
        obtain ⟨rfl, hf⟩ := hf
        exact Or.inr (Or.inr ⟨t, ht, names, hw, hf, rfl⟩)
      · exact Or.inl ht
    | signalAbort _ _ => exact Or.inl (s.tell_tasks ▸ hu)
    | _ => exact Or.inl hu

lemma AttemptRule.settlement_mono (h : AttemptRule s name panics attempt attempt' s') :
    s.settlement.flags ⊆ s'.settlement.flags ∧
      s.settlement.ledger.results ⊆ s'.settlement.ledger.results := by
  cases h with
  | win _ _ _ => exact ⟨List.subset_cons_self _ _, List.Subset.refl _⟩
  | enter outcome duration ha =>
    refine ⟨List.Subset.refl _, fun r hr => ?_⟩
    exact (Names.mem_put (Ledger.accepts_iff.mp ha).1).mpr (Or.inr hr)
  | tell _ =>
    rw [tell_settlement]
    exact ⟨List.Subset.refl _, List.Subset.refl _⟩
  | _ => exact ⟨List.Subset.refl _, List.Subset.refl _⟩

lemma settlement_mono (hs : (s.tasks.map Task.name).Nodup) (hstep : s.step action = some s') :
    s.settlement.flags ⊆ s'.settlement.flags ∧
      s.settlement.ledger.results ⊆ s'.settlement.ledger.results := by
  cases effect_of_step hs hstep with
  | aside _ hu =>
    rw [hu.settlement]
    exact ⟨List.Subset.refl _, List.Subset.refl _⟩
  | advance _ _ _ hr hs' =>
    subst hs'
    exact hr.settlement_mono

lemma isSettled_mono (hs : (s.tasks.map Task.name).Nodup) (hstep : s.step action = some s')
    (hf : s.settlement.isSettled name = true) : s'.settlement.isSettled name = true := by
  simp only [Settlement.isSettled, List.contains_eq_mem, decide_eq_true_eq] at hf ⊢
  exact (settlement_mono hs hstep).1 hf

lemma AttemptRule.calls (h : AttemptRule s name panics attempt attempt' s') :
    s'.calls = s.calls := by
  cases h with
  | tell _ => rw [tell_eq]
  | _ => rfl

lemma TaskRule.calls_cases (h : TaskRule s t action t' s₁) :
    s₁.calls = s.calls ∧ (t'.work.isUncalled = true → t.work.isUncalled = true) ∨
      ∃ backend, s₁.calls = s.calls ++ [(backend, t.name)] ∧ t.work.isUncalled = true ∧
        t'.work.isUncalled = false := by
  cases h with
  | call backend hw => exact Or.inr ⟨backend, rfl, by rw [hw]; rfl, rfl⟩
  | advanceWorker hw ha => exact Or.inl ⟨ha.calls, nofun⟩
  | advanceTimer _ ha =>
    rw [(t.resume_timer _).1]
    exact Or.inl ⟨ha.calls, id⟩
  | submit hw _ | check hw _ | skipCancelled hw _ => exact Or.inl ⟨rfl, fun _ => by rw [hw]; rfl⟩
  | take hw _ _ | skipSettled hw _ _ => exact Or.inl ⟨rfl, fun _ => by rw [hw]; rfl⟩
  | share _ hw _ | create hw _ => exact Or.inl ⟨rfl, fun _ => by rw [hw]; rfl⟩
  | createRefused _ _ _ | createPanicked _ _ => exact Or.inl ⟨rfl, nofun⟩
  | reply _ _ _ | time _ _ _ => exact Or.inl ⟨rfl, nofun⟩
  | schedule _ _ | fire _ _ _ | cancel _ => exact Or.inl ⟨rfl, id⟩

lemma WatchRule.calls (h : WatchRule s action s') : s'.calls = s.calls := by
  cases h with
  | signalAbort _ _ =>
    change s.tell.calls = s.calls
    rw [tell_eq]
  | sweepNext name _ _ =>
    change (s.cancelUnsettled name).calls = s.calls
    rw [cancelUnsettled_eq]
  | _ => rfl

structure Called (s : System) : Prop where
  nodup : (s.calls.map Prod.snd).Nodup
  uncalled : ∀ t ∈ s.tasks, t.work.isUncalled = true → t.name ∉ s.calls.map Prod.snd

namespace Called

lemma taskRule (h : s.Called) (ht : t ∈ s.tasks) (hr : TaskRule s t action t' s₁) :
    (s₁.setTask t').Called := by
  have hmem {u : Task} (hu : u ∈ (s₁.setTask t').tasks) :
      u = t' ∨ u ∈ s.tasks ∧ u.name ≠ t'.name := by
    have h₁ := hr.tasks
    rw [← h₁] at ht ⊢
    exact (mem_setTask_iff hr.name_eq ht).mp hu
  have hcalls : (s₁.setTask t').calls = s₁.calls := rfl
  rcases hr.calls_cases with ⟨hc, huncalled⟩ | ⟨backend, hc, huncalled, hcalled⟩
  · refine ⟨by rw [hcalls, hc]; exact h.nodup, fun u hu hw => ?_⟩
    rw [hcalls, hc]
    rcases hmem hu with rfl | ⟨hu, _⟩
    · rw [hr.name_eq]
      exact h.uncalled t ht (huncalled hw)
    · exact h.uncalled u hu hw
  · have hnew := h.uncalled t ht huncalled
    have hlist : (s₁.setTask t').calls.map Prod.snd = s.calls.map Prod.snd ++ [t.name] := by
      rw [hcalls, hc, List.map_append, List.map_singleton]
    refine ⟨?_, fun u hu hw => ?_⟩
    · rw [hlist]
      exact List.nodup_append_comm.mp (List.nodup_cons.mpr ⟨hnew, h.nodup⟩)
    · rw [hlist, List.mem_append, List.mem_singleton]
      rcases hmem hu with rfl | ⟨hu, hne⟩
      · rw [hcalled] at hw
        cases hw
      · rw [hr.name_eq] at hne
        rintro (hm | he)
        · exact h.uncalled u hu hw hm
        · exact hne he

lemma step (h : s.Called) (hstep : s.step action = some s') : s'.Called := by
  rcases rule_of_step hstep with ⟨t, ht, t', s₁, hr, rfl⟩ | hr
  · exact h.taskRule ht hr
  · refine ⟨by rw [hr.calls]; exact h.nodup, fun t ht hw => ?_⟩
    obtain ⟨u, hu, cancelled, rfl⟩ := hr.mem_tasks ht
    rw [hr.calls]
    exact h.uncalled u hu hw

lemma initial (config : Config) (fresh : Bool) (names : List String) :
    (System.initial config fresh names).Called :=
  ⟨List.nodup_nil, fun _ _ _ => nofun⟩

end Called

lemma TaskRule.isBarred (h : TaskRule s t action t' s₁)
    (hb : t.isBarred (s.settlement.isSettled t.name) = true) :
    t'.isBarred (s.settlement.isSettled t.name) = true := by
  unfold Task.isBarred at hb
  cases h with
  | submit hw _ =>
    rw [hw] at hb
    exact hb
  | take hw _ hf =>
    rw [hw, hf, Bool.false_or] at hb
    exact hb
  | skipSettled _ _ _ | skipCancelled _ _ => rfl
  | check hw hc =>
    rw [hw, hc] at hb
    cases hb
  | share _ hw _ | createRefused _ hw _ | call _ hw | reply _ _ hw =>
    rw [hw] at hb
    cases hb
  | create hw _ | createPanicked hw _ | time _ _ hw | advanceWorker hw _ =>
    rw [hw] at hb
    cases hb
  | schedule _ _ | fire _ _ _ => exact hb
  | cancel _ => exact Task.isBarred_mono (t := { t with expiry := .over }) hb id fun _ => rfl
  | advanceTimer _ _ =>
    obtain ⟨hw, hc⟩ := t.resume_timer _
    rw [Task.isBarred, hw, hc]
    exact hb

lemma barred_step (hs : (s.tasks.map Task.name).Nodup) (hstep : s.step action = some s')
    (hb : ∀ t ∈ s.tasks, t.name = name → t.isBarred (s.settlement.isSettled name) = true)
    (hu : u ∈ s'.tasks) (hn : u.name = name) :
    u.isBarred (s'.settlement.isSettled name) = true := by
  have hf (h : s.settlement.isSettled name = true) := isSettled_mono hs hstep h
  rcases task_origin hs hstep hu with hu | ⟨t, ht, s₁, hr, _⟩ | ⟨t, ht, _, _, _, rfl⟩
  · exact Task.isBarred_mono (hb u hu hn) hf id
  · have hname : t.name = name := hr.name_eq.symm.trans hn
    have hbarred := hr.isBarred (hname.symm ▸ hb t ht hname)
    rw [hname] at hbarred
    exact Task.isBarred_mono hbarred hf id
  · exact Task.isBarred_mono (hb t ht hn) hf fun _ => rfl

section Reachable

variable {config : Config} {fresh : Bool} {names : List String} {actions later : List Action}

lemma Run.called (h : Run (initial config fresh names) actions s) : s.Called := by
  induction h with
  | nil => exact Called.initial config fresh names
  | concat _ hstep ih => exact ih.step hstep

lemma Run.not_called (h : Run (initial config fresh names) actions s) (ht : t ∈ s.tasks)
    (hb : t.isBarred (s.settlement.isSettled t.name) = true) (hl : s.steps later = some s') :
    t.name ∉ s'.calls.map Prod.snd := by
  have hbarred : ∀ u ∈ s'.tasks, u.name = t.name →
      u.isBarred (s'.settlement.isSettled t.name) = true := by
    refine h.keeps (p := fun s' => ∀ u ∈ s'.tasks, u.name = t.name →
      u.isBarred (s'.settlement.isSettled t.name) = true) hl ?_ ?_
    · intro u hu hn
      rw [eq_of_name_eq h.sound.nodup hu ht hn]
      exact hb
    · intro _ _ _ _ hrun hstep hb u hu hn
      exact barred_step hrun.sound.nodup hstep hb hu hn
  have hrun := h.append hl
  obtain ⟨u, hu, hn⟩ : ∃ u ∈ s'.tasks, u.name = t.name := by
    rw [← List.mem_map, hrun.sound.names, ← h.sound.names]
    exact List.mem_map_of_mem ht
  rw [← hn]
  exact hrun.called.uncalled u hu (Task.isUncalled_of_isBarred (hn ▸ hbarred u hu hn))

end Reachable

end System

end ClassBatch.Batch
