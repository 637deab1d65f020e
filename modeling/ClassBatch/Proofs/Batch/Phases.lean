import ClassBatch.Proofs.Batch.Verdict

/-! The phases of a batch. The orchestrator decides once between completion and abortion, and how
far it has come tells the phase and what was handed out. -/

namespace ClassBatch.Batch

inductive Phase.Leads : Phase → Phase → Prop
  | launch : Leads .pending .running
  | complete : Leads .running .completed
  | abort : Leads .running .aborted

def Watch.Fits (phase : Phase) (completions : List Ledger) : Watch → Prop
  | .absent => phase = .pending ∧ completions = []
  | .outside | .locked | .unaborted | .incomplete | .asleep _ =>
    phase = .running ∧ completions = []
  | .sweeping _ | .closing => (phase = .completed ∨ phase = .aborted) ∧ completions = []
  | .reporting _ => phase = .completed ∧ completions = []
  | .over (.completed l) => phase = .completed ∧ completions = [l]
  | .over .panicked => phase = .completed ∧ ∃ l, completions = [l]
  | .over .aborted => phase = .aborted ∧ completions = []

lemma Watch.Fits.completions_length {phase : Phase} {completions : List Ledger} {watch : Watch}
    (h : watch.Fits phase completions) :
    completions.length ≤ 1 ∧ (completions ≠ [] → phase = .completed) := by
  have empty (hc : completions = []) :
      completions.length ≤ 1 ∧ (completions ≠ [] → phase = .completed) := by
    subst hc
    exact ⟨Nat.zero_le 1, fun hne => absurd rfl hne⟩
  cases watch with
  | «over» ending =>
    cases ending with
    | completed l =>
      obtain ⟨hp, rfl⟩ := h
      exact ⟨le_refl 1, fun _ => hp⟩
    | panicked =>
      obtain ⟨hp, l, rfl⟩ := h
      exact ⟨le_refl 1, fun _ => hp⟩
    | aborted => exact empty h.2
  | _ => exact empty h.2

namespace System

variable {s s' s₁ start : System} {t t' : Task} {action : Action} {actions later : List Action}

structure Staged (s : System) : Prop where
  watch : s.watch.Fits s.phase s.completions
  scheduled : s.watch ≠ .absent → ∀ t ∈ s.tasks, t.expiry ≠ .unscheduled
  timer : s.timerOpen = false → s.watch.isClosed = true
  forgotten : ∀ t ∈ s.tasks, ∀ settled, t.expiry ≠ .settling (.over settled)

lemma TaskRule.unscheduled (h : TaskRule s t action t' s₁) (ht : t'.expiry = .unscheduled) :
    t.expiry = .unscheduled := by
  cases h with
  | schedule _ _ | fire _ _ _ | cancel _ => cases ht
  | @advanceTimer _ _ attempt' _ _ _ =>
    cases attempt' with
    | «over» settled => cases settled <;> cases ht
    | _ => cases ht
  | _ => exact ht

lemma TaskRule.forgotten (h : TaskRule s t action t' s₁)
    (hf : ∀ settled, t.expiry ≠ .settling (.over settled)) (settled : Bool) :
    t'.expiry ≠ .settling (.over settled) := by
  cases h with
  | schedule _ _ | fire _ _ _ | cancel _ => nofun
  | @advanceTimer _ _ attempt' _ _ _ =>
    cases attempt' with
    | «over» settled => cases settled <;> nofun
    | _ => nofun
  | _ => exact hf settled

lemma AttemptRule.abortRequested {name : String} {panics : Bool} {attempt attempt' : Attempt}
    (h : AttemptRule s name panics attempt attempt' s') :
    s'.abortRequested = s.abortRequested := by
  cases h with
  | tell _ => rw [tell_eq]
  | _ => rfl

lemma TaskRule.abortRequested (h : TaskRule s t action t' s₁) :
    (s₁.setTask t').abortRequested = s.abortRequested := by
  cases h with
  | advanceWorker _ ha | advanceTimer _ ha => exact ha.abortRequested
  | _ => rfl

@[simp] lemma cancelUnsettled_abortRequested (s : System) (name : String) :
    (s.cancelUnsettled name).abortRequested = s.abortRequested := by
  rw [cancelUnsettled_eq]

lemma abortRequested_mono (hstep : s.step action = some s') (ha : s.abortRequested = true) :
    s'.abortRequested = true := by
  rcases rule_of_step hstep with ⟨t, _, t', s₁, hr, rfl⟩ | hr
  · exact hr.abortRequested.trans ha
  · cases hr with
    | requestAbort _ => rfl
    | signalAbort _ _ =>
      change s.tell.abortRequested = true
      rw [tell_eq]
      exact ha
    | sweepNext name _ _ => exact (s.cancelUnsettled_abortRequested name).trans ha
    | _ => exact ha

lemma Unwatched.fits (hu : Unwatched s s') (h : s.watch.Fits s.phase s.completions) :
    s'.watch.Fits s'.phase s'.completions := by
  rw [hu.phase, hu.completions]
  rcases hu.watch with hw | ⟨told, told', hw, hw'⟩
  · rw [hw]
    exact h
  · rw [hw] at h
    rw [hw']
    exact h

lemma Unwatched.isClosed_eq (hu : Unwatched s s') : s'.watch.isClosed = s.watch.isClosed := by
  rcases hu.watch with hw | ⟨told, told', hw, hw'⟩
  · rw [hw]
  · rw [hw, hw']
    rfl

lemma Unwatched.phaseLocked_eq (hu : Unwatched s s') : s'.phaseLocked = s.phaseLocked := by
  rcases hu.watch with hw | ⟨told, told', hw, hw'⟩
  · rw [phaseLocked, phaseLocked, hw]
  · rw [phaseLocked, phaseLocked, hw, hw']

lemma Unwatched.absent_iff (hu : Unwatched s s') : s'.watch = .absent ↔ s.watch = .absent := by
  rcases hu.watch with hw | ⟨told, told', hw, hw'⟩
  · rw [hw]
  · simp only [hw, hw', reduceCtorEq]

lemma WatchRule.fits (hr : WatchRule s action s') (h : s.watch.Fits s.phase s.completions) :
    s'.watch.Fits s'.phase s'.completions := by
  cases hr with
  | launch hw _ =>
    rw [hw] at h
    exact ⟨rfl, h.2⟩
  | requestAbort _ => exact h
  | signalAbort _ _ => exact (unwatched_tell s).fits h
  | lock hw | findUnaborted hw _ | findIncomplete hw _ =>
    rw [hw] at h
    exact h
  | sleep hw | wake hw | stir hw =>
    rw [hw] at h
    exact h
  | heedAbort hw _ | giveUp hw =>
    rw [hw] at h
    exact ⟨Or.inr rfl, h.2⟩
  | findComplete hw _ =>
    rw [hw] at h
    exact ⟨Or.inl rfl, h.2⟩
  | sweepNext name names hw =>
    rw [hw] at h
    simp only [cancelUnsettled_phase, cancelUnsettled_completions]
    exact h
  | sweepEnd hw =>
    rw [hw] at h
    exact h
  | closeCompleted hw _ hp =>
    rw [hw] at h
    exact ⟨hp, h.2⟩
  | closeAborted hw _ hp =>
    rw [hw] at h
    exact ⟨h.1.resolve_left hp, h.2⟩
  | complete l hw =>
    rw [hw] at h
    exact ⟨h.1, by rw [h.2]; rfl⟩
  | completePanicked l hw =>
    rw [hw] at h
    exact ⟨h.1, l, by rw [h.2]; rfl⟩

lemma WatchRule.scheduled_of_absent (hr : WatchRule s action s') (habsent : s.watch = .absent)
    (hw : s'.watch ≠ .absent) (ht : t ∈ s'.tasks) : t.expiry ≠ .unscheduled := by
  -- From here only the launch leads on.
  have other {watch : Watch} (hother : s.watch = watch) (hne : watch ≠ .absent) : False :=
    hne (hother.symm.trans habsent)
  cases hr with
  | launch _ hall => exact hall t ht
  | requestAbort hne => exact absurd habsent hne
  | signalAbort _ _ => exact absurd ((unwatched_tell s).absent_iff.mpr habsent) hw
  | lock h | heedAbort h _ | findUnaborted h _ => exact (other h nofun).elim
  | findComplete h _ | findIncomplete h _ => exact (other h nofun).elim
  | giveUp h | sleep h | wake h | stir h | sweepEnd h => exact (other h nofun).elim
  | sweepNext _ _ h => exact (other h nofun).elim
  | closeCompleted h _ _ | closeAborted h _ _ => exact (other h nofun).elim
  | complete _ h | completePanicked _ h => exact (other h nofun).elim

namespace Staged

lemma taskRule (h : s.Staged) (ht : t ∈ s.tasks) (hr : TaskRule s t action t' s₁) :
    (s₁.setTask t').Staged := by
  have hu := hr.unwatched
  refine ⟨hu.fits h.watch, ?_, ?_, ?_⟩
  · intro hw u hm
    have hlaunched : s.watch ≠ .absent := fun ha => hw (hu.absent_iff.mpr ha)
    rcases mem_setTask hm with rfl | hm
    · exact fun hx => h.scheduled hlaunched t ht (hr.unscheduled hx)
    · exact h.scheduled hlaunched u (hr.tasks ▸ hm)
  · intro hc
    rw [hu.isClosed_eq]
    exact h.timer (hu.timerOpen ▸ hc)
  · intro u hm
    rcases mem_setTask hm with rfl | hm
    · exact hr.forgotten (h.forgotten t ht)
    · exact h.forgotten u (hr.tasks ▸ hm)

lemma scheduled_watchRule (h : s.Staged) (hr : WatchRule s action s') (hw : s'.watch ≠ .absent)
    (ht : t ∈ s'.tasks) : t.expiry ≠ .unscheduled := by
  obtain ⟨u, hu, cancelled, rfl⟩ := hr.mem_tasks ht
  by_cases habsent : s.watch = .absent
  · exact hr.scheduled_of_absent habsent hw ht
  · exact h.scheduled habsent u hu

lemma timer_watchRule (h : s.Staged) (hr : WatchRule s action s') (hc : s'.timerOpen = false) :
    s'.watch.isClosed = true := by
  -- A watch that is not closed leaves the timer as it is.
  have before {watch : Watch} (hw : s.watch = watch) (ho : watch.isClosed = false)
      (hclosed : s.timerOpen = false) : False := by
    have hclosed := h.timer hclosed
    rw [hw, ho] at hclosed
    cases hclosed
  cases hr with
  | launch hw _ | lock hw | heedAbort hw _ | findUnaborted hw _ =>
    exact (before hw rfl hc).elim
  | findComplete hw _ | findIncomplete hw _ | giveUp hw | sleep hw =>
    exact (before hw rfl hc).elim
  | wake hw | stir hw | sweepEnd hw => exact (before hw rfl hc).elim
  | sweepNext name names hw => exact (before hw rfl (s.cancelUnsettled_timerOpen name ▸ hc)).elim
  | requestAbort _ => exact h.timer hc
  | signalAbort _ _ =>
    have hu := unwatched_tell s
    exact hu.isClosed_eq.trans (h.timer (hu.timerOpen ▸ hc))
  | closeCompleted _ _ _ | closeAborted _ _ _ | complete _ _ | completePanicked _ _ => rfl

lemma step (h : s.Staged) (hstep : s.step action = some s') : s'.Staged := by
  rcases rule_of_step hstep with ⟨t, ht, t', s₁, hr, rfl⟩ | hr
  · exact h.taskRule ht hr
  · refine ⟨hr.fits h.watch, fun hw _ => h.scheduled_watchRule hr hw, h.timer_watchRule hr, ?_⟩
    intro t ht
    obtain ⟨u, hu, cancelled, rfl⟩ := hr.mem_tasks ht
    exact h.forgotten u hu

lemma initial (config : Config) (fresh : Bool) (names : List String) :
    (System.initial config fresh names).Staged := by
  refine ⟨⟨rfl, rfl⟩, fun hw => absurd rfl hw, nofun, ?_⟩
  intro t ht
  obtain ⟨name, _, rfl⟩ := List.mem_map.mp ht
  nofun

end Staged

lemma Run.staged {config : Config} {fresh : Bool} {names : List String}
    (h : Run (initial config fresh names) actions s) : s.Staged := by
  induction h with
  | nil => exact Staged.initial config fresh names
  | concat _ hstep ih => exact ih.step hstep

lemma Staged.phase_step (h : s.Staged) (hstep : s.step action = some s') :
    s'.phase = s.phase ∨ s.phase.Leads s'.phase := by
  have hw := h.watch
  rcases rule_of_step hstep with ⟨t, ht, t', s₁, hr, rfl⟩ | hr
  · exact Or.inl hr.unwatched.phase
  · cases hr with
    | launch habsent _ =>
      rw [habsent] at hw
      rw [hw.1]
      exact Or.inr .launch
    | heedAbort hlocked _ =>
      rw [hlocked] at hw
      rw [hw.1]
      exact Or.inr .abort
    | giveUp hincomplete =>
      rw [hincomplete] at hw
      rw [hw.1]
      exact Or.inr .abort
    | findComplete hunaborted _ =>
      rw [hunaborted] at hw
      rw [hw.1]
      exact Or.inr .complete
    | signalAbort _ _ => exact Or.inl s.tell_phase
    | sweepNext name names _ => exact Or.inl (s.cancelUnsettled_phase name)
    | _ => exact Or.inl rfl

lemma Staged.phase_final (h : s.Staged) (hstep : s.step action = some s')
    (hp : s.phase = .completed ∨ s.phase = .aborted) : s'.phase = s.phase := by
  refine (h.phase_step hstep).resolve_right fun hleads => ?_
  rcases hp with hp | hp <;> rw [hp] at hleads <;> cases hleads

section Later

variable {config : Config} {fresh : Bool} {names : List String}

lemma steps_append (s : System) (actions later : List Action) :
    s.steps (actions ++ later) = (s.steps actions).bind fun s' => s'.steps later :=
  List.foldlM_append

lemma Run.append (h : Run start actions s) (hl : s.steps later = some s') :
    Run start (actions ++ later) s' := by
  apply run_of_steps
  rw [steps_append, h.steps, Option.bind_some, hl]

lemma Run.keeps {p : System → Prop} (h : Run start actions s) (hl : s.steps later = some s')
    (hp : p s) (hkeep : ∀ {actions s action s'}, Run start actions s → s.step action = some s' →
      p s → p s') : p s' := by
  have hrun := run_of_steps hl
  clear hl
  induction hrun with
  | nil => exact hp
  | concat hrun hstep ih => exact hkeep (h.append hrun.steps) hstep ih

lemma Run.phase_final (h : Run (initial config fresh names) actions s)
    (hl : s.steps later = some s') (hp : s.phase = .completed ∨ s.phase = .aborted) :
    s'.phase = s.phase := by
  refine h.keeps (p := fun s' => s'.phase = s.phase) hl rfl ?_
  intro _ s₁ _ s₂ hrun hstep hs₁
  exact (hrun.staged.phase_final hstep (hs₁ ▸ hp)).trans hs₁

end Later

end System

end ClassBatch.Batch
