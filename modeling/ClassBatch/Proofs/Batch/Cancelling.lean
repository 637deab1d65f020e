import ClassBatch.Proofs.Batch.Calls
import ClassBatch.Proofs.Batch.Refinement

/-! Cancellation. The timer cancels what it has entered as timed out, and the orchestrator whatever
it finds unsettled, which is nothing if the batch is complete. -/

namespace ClassBatch.Batch

def Watch.unswept? : Watch → Option (List String)
  | .sweeping names => some names
  | .closing | .reporting _ | .over _ => some []
  | _ => none

/-- The timer settles a task as timed out, and cancels it after that. -/
structure Task.Fair (t : Task) (results : List (String × Outcome)) : Prop where
  offered : ∀ attempt outcome duration, t.expiry = .settling attempt →
    attempt.offer? = some (outcome, duration) → outcome = expired t.name
  recorded : t.expiry = .cancelling ∨
      (∃ attempt, t.expiry = .settling attempt ∧ attempt.isRecorded = true) →
    (t.name, expired t.name) ∈ results

lemma Task.Fair.mono {t : Task} {results results' : List (String × Outcome)} (h : t.Fair results)
    (hr : results ⊆ results') : t.Fair results' :=
  ⟨h.offered, fun hx => hr (h.recorded hx)⟩

lemma Task.fair_of_idle {t : Task} {results : List (String × Outcome)}
    (hs : ∀ attempt, t.expiry ≠ .settling attempt) (hc : t.expiry ≠ .cancelling) :
    t.Fair results where
  offered attempt _ _ hx := absurd hx (hs attempt)
  recorded hx := by
    rcases hx with hx | ⟨attempt, hx, _⟩
    · exact absurd hx hc
    · exact absurd hx (hs attempt)

namespace System

variable {s s' s₁ : System} {t t' u : Task} {action : Action} {name : String}
  {attempt attempt' : Attempt} {panics : Bool}

lemma AttemptRule.fair (h : AttemptRule s t.name panics attempt attempt' s')
    (he : t.expiry = .settling attempt) (hf : t.Fair s.settlement.ledger.results) :
    (t.resume .timer attempt').Fair s'.settlement.ledger.results := by
  have hold (hr : attempt.isRecorded = true) :
      (t.name, expired t.name) ∈ s'.settlement.ledger.results :=
    h.settlement_mono.2 (hf.recorded (Or.inr ⟨attempt, he, hr⟩))
  cases h with
  | acquire outcome duration _ | win outcome duration _ =>
    refine ⟨?_, ?_⟩
    · rintro _ _ _ hx ho
      cases hx
      exact hf.offered _ _ _ he ho
    · rintro (hx | ⟨_, hx, hr⟩) <;> cases hx
      cases hr
  | enter outcome duration ha =>
    refine ⟨?_, fun _ => ?_⟩
    · rintro _ _ _ hx ho
      cases hx
      cases ho
    · obtain rfl := hf.offered _ outcome duration he rfl
      exact (Names.mem_put (Ledger.accepts_iff.mp ha).1).mpr (Or.inl rfl)
  | lose _ _ _ | refuse _ _ _ => exact Task.fair_of_idle nofun nofun
  | report _ | finish | release =>
    refine ⟨?_, fun _ => hold rfl⟩
    rintro _ _ _ hx ho
    cases hx
    cases ho
  | tell _ => exact ⟨(fun _ _ _ hx => nomatch hx), fun _ => hold rfl⟩

lemma TaskRule.fair (h : TaskRule s t action t' s₁) (hf : t.Fair s.settlement.ledger.results) :
    t'.Fair s₁.settlement.ledger.results := by
  cases h with
  | schedule _ _ | cancel _ => exact Task.fair_of_idle nofun nofun
  | fire _ _ _ =>
    refine ⟨?_, ?_⟩
    · rintro _ _ _ hx ho
      cases hx
      cases ho
      rfl
    · rintro (hx | ⟨_, hx, hr⟩) <;> cases hx
      cases hr
  | advanceWorker _ ha => exact ⟨hf.offered, fun hx => ha.settlement_mono.2 (hf.recorded hx)⟩
  | advanceTimer he ha => exact ha.fair he hf
  | _ => exact ⟨hf.offered, hf.recorded⟩

lemma TaskRule.cancelled_eq (h : TaskRule s t action t' s₁) :
    t'.cancelled = t.cancelled ∨ t.expiry = .cancelling ∧ t'.cancelled = true := by
  cases h with
  | cancel he => exact Or.inr ⟨he, rfl⟩
  | advanceTimer _ _ => exact Or.inl (t.resume_timer _).2
  | _ => exact Or.inl rfl

structure Sparing (s : System) : Prop where
  fair : ∀ t ∈ s.tasks, t.Fair s.settlement.ledger.results
  cancelled : s.phase ≠ .aborted → ∀ t ∈ s.tasks, t.cancelled = true →
    (t.name, expired t.name) ∈ s.settlement.ledger.results

lemma Sound.isSettled_of_isComplete {names : List String} (h : s.Sound names)
    (hc : s.settlement.ledger.isComplete = true) (hn : name ∈ s.tasks.map Task.name) :
    s.settlement.isSettled name = true := by
  rw [h.names, ← h.keys_of_isComplete hc] at hn
  simpa only [Settlement.isSettled, List.contains_eq_mem, decide_eq_true_eq] using
    h.agreement.flagged hn

namespace Sparing

lemma step {names : List String} (h : s.Sparing) (hsound : s.Sound names) (hstaged : s.Staged)
    (hverdict : s.Verdict) (hstep : s.step action = some s') : s'.Sparing := by
  have hs := hsound.nodup
  have hresults := (settlement_mono hs hstep).2
  refine ⟨fun u hu => ?_, fun hp u hu hc => ?_⟩
  · rcases task_origin hs hstep hu with hu | ⟨t, ht, s₁, hr, rfl⟩ | ⟨t, ht, _, _, _, rfl⟩
    · exact (h.fair u hu).mono hresults
    · exact hr.fair (h.fair t ht)
    · exact ⟨(h.fair t ht).offered, fun hx => hresults ((h.fair t ht).recorded hx)⟩
  · have hp : s.phase ≠ .aborted := fun ha =>
      hp ((hstaged.phase_final hstep (Or.inr ha)).trans ha)
    apply hresults
    rcases task_origin hs hstep hu with hu | ⟨t, ht, s₁, hr, _⟩ | ⟨t, ht, _, hw, hf, rfl⟩
    · exact h.cancelled hp u hu hc
    · rw [hr.name_eq]
      rcases hr.cancelled_eq with hsame | ⟨he, _⟩
      · exact h.cancelled hp t ht (hsame ▸ hc)
      · exact (h.fair t ht).recorded (Or.inl he)
    · -- A batch that is looked through and not aborted is complete, with nothing unsettled.
      have hfits := hstaged.watch
      rw [hw] at hfits
      have hcomplete := (hverdict.decided (hfits.1.resolve_right hp)).2
      rw [hsound.isSettled_of_isComplete hcomplete (List.mem_map_of_mem ht)] at hf
      cases hf

lemma initial (config : Config) (fresh : Bool) (names : List String) :
    (System.initial config fresh names).Sparing := by
  refine ⟨fun t ht => ?_, fun _ t ht hc => ?_⟩ <;> obtain ⟨name, _, rfl⟩ := List.mem_map.mp ht
  · exact Task.fair_of_idle nofun nofun
  · cases hc

end Sparing

def Swept (s : System) : Prop :=
  ∀ names, s.watch.unswept? = some names → ∀ t ∈ s.tasks,
    t.name ∈ names ∨ s.settlement.isSettled t.name = true ∨ t.cancelled = true

lemma Unwatched.unswept?_eq (hu : Unwatched s s') : s'.watch.unswept? = s.watch.unswept? := by
  rcases hu.watch with hw | ⟨told, told', hw, hw'⟩
  · rw [hw]
  · rw [hw, hw']
    rfl

lemma settled_or_cancelled (hs : (s.tasks.map Task.name).Nodup)
    (ht : t ∈ (s.cancelUnsettled name).tasks) (hn : t.name = name) :
    s.settlement.isSettled name = true ∨ t.cancelled = true := by
  rw [cancelUnsettled_tasks hs, List.mem_map] at ht
  obtain ⟨u, _, rfl⟩ := ht
  by_cases hf : u.name = name ∧ s.settlement.isSettled name = false
  · rw [if_pos hf]
    exact Or.inr rfl
  · rw [if_neg hf] at hn
    exact Or.inl (Bool.eq_true_of_not_eq_false fun hset => hf ⟨hn, hset⟩)

namespace Swept

lemma mono {names names' : List String} (h : s.Swept) (hs : (s.tasks.map Task.name).Nodup)
    (hstep : s.step action = some s') (hw : s.watch.unswept? = some names)
    (hnames : ∀ t ∈ s'.tasks, t.name ∈ names →
      t.name ∈ names' ∨ s'.settlement.isSettled t.name = true ∨ t.cancelled = true)
    (hu : u ∈ s'.tasks) :
    u.name ∈ names' ∨ s'.settlement.isSettled u.name = true ∨ u.cancelled = true := by
  have hf {name : String} (hf : s.settlement.isSettled name = true) := isSettled_mono hs hstep hf
  rcases task_origin hs hstep hu with hm | ⟨t, ht, s₁, hr, _⟩ | ⟨t, ht, _, _, _, rfl⟩
  · rcases h names hw u hm with hn | hset | hc
    · exact hnames u hu hn
    · exact Or.inr (Or.inl (hf hset))
    · exact Or.inr (Or.inr hc)
  · have hname := hr.name_eq
    rcases h names hw t ht with hn | hset | hc
    · exact hnames u hu (hname ▸ hn)
    · exact Or.inr (Or.inl (hname ▸ hf hset))
    · refine Or.inr (Or.inr ?_)
      rcases hr.cancelled_eq with hsame | ⟨_, hc'⟩
      · exact hsame.trans hc
      · exact hc'
  · exact Or.inr (Or.inr rfl)

lemma step (h : s.Swept) (hs : (s.tasks.map Task.name).Nodup) (hstep : s.step action = some s') :
    s'.Swept := by
  have same {names : List String} (hw : s.watch.unswept? = some names) {t : Task}
      (ht : t ∈ s'.tasks) :
      t.name ∈ names ∨ s'.settlement.isSettled t.name = true ∨ t.cancelled = true :=
    h.mono hs hstep hw (fun _ _ => Or.inl) ht
  intro names hw t ht
  rcases rule_of_step hstep with ⟨_, _, _, _, hr, rfl⟩ | hr
  · exact same (hr.unwatched.unswept?_eq ▸ hw) ht
  · cases hr with
    | requestAbort _ => exact same hw ht
    | signalAbort _ _ => exact same ((unwatched_tell s).unswept?_eq ▸ hw) ht
    | heedAbort _ _ | findComplete _ _ | giveUp _ =>
      cases hw
      exact Or.inl (List.mem_map_of_mem ht)
    | sweepNext name names' hw' =>
      cases hw
      refine h.mono hs hstep (by rw [hw']; rfl) (fun u hu hn => ?_) ht
      rcases List.mem_cons.mp hn with hn | hn
      · refine Or.inr (Or.imp_left (fun hf => ?_) (settled_or_cancelled hs hu hn))
        change (s.cancelUnsettled name).settlement.isSettled u.name = true
        rw [cancelUnsettled_settlement, hn]
        exact hf
      · exact Or.inl hn
    | sweepEnd hw' | closeCompleted hw' _ _ | closeAborted hw' _ _ =>
      cases hw
      exact same (by rw [hw']; rfl) ht
    | complete _ hw' | completePanicked _ hw' =>
      cases hw
      exact same (by rw [hw']; rfl) ht
    | _ => cases hw

end Swept

section Reachable

variable {config : Config} {fresh : Bool} {names : List String} {actions later : List Action}

lemma Run.sparing (h : Run (initial config fresh names) actions s) : s.Sparing := by
  induction h with
  | nil => exact Sparing.initial config fresh names
  | concat hrun hstep ih => exact ih.step hrun.sound hrun.staged hrun.verdict hstep

lemma Run.swept (h : Run (initial config fresh names) actions s) : s.Swept := by
  induction h with
  | nil => nofun
  | concat hrun hstep ih => exact ih.step hrun.sound.nodup hstep

lemma WatchRule.aborted_cases (hr : WatchRule s action s') (hp : s'.phase = .aborted) :
    s.phase = .aborted ∨ s'.abortRequested = true ∨ action = .giveUp := by
  cases hr with
  | heedAbort _ ha => exact Or.inr (Or.inl ha)
  | giveUp _ => exact Or.inr (Or.inr rfl)
  | launch _ _ | findComplete _ _ => cases hp
  | signalAbort _ _ => exact Or.inl (s.tell_phase ▸ hp)
  | sweepNext name _ _ => exact Or.inl (s.cancelUnsettled_phase name ▸ hp)
  | _ => exact Or.inl hp

lemma Run.requested_of_aborted (h : Run (initial config fresh names) actions s)
    (hp : s.phase = .aborted) : s.abortRequested = true ∨ .giveUp ∈ actions := by
  induction h with
  | nil => cases hp
  | @concat actions s s' action hrun hstep ih =>
    have hcases : s.phase = .aborted ∨ s'.abortRequested = true ∨ action = .giveUp := by
      rcases rule_of_step hstep with ⟨t, _, t', s₁, hr, rfl⟩ | hr
      · exact Or.inl (hr.unwatched.phase ▸ hp)
      · exact hr.aborted_cases hp
    rw [List.mem_append, List.mem_singleton]
    rcases hcases with hp | ha | rfl
    · exact (ih hp).imp (abortRequested_mono hstep) Or.inl
    · exact Or.inl ha
    · exact Or.inr (Or.inr rfl)

/-- Without an abort a task is cancelled only if its result is a timeout, and completion cancels
nothing. A task is called at most once, and not at all if a worker's checks are yet to find it
settled or cancelled. Once the orchestrator has looked through the tasks, each is settled or
cancelled. -/
theorem cancellation_confined (config : Config) (fresh : Bool) (names : List String)
    (actions : List Action) (s : System)
    (h : (initial config fresh names).steps actions = some s) :
    (s.abortRequested = false → .giveUp ∉ actions → ∀ t ∈ s.tasks, t.cancelled = true →
      (t.name, .timedOut (Source.timeoutStub t.name)) ∈ s.settlement.ledger.results) ∧
    (s.phase = .completed → ∀ name, s.cancelUnsettled name = s) ∧
    (s.calls.map Prod.snd).Nodup ∧
    (∀ t ∈ s.tasks, t.isBarred (s.settlement.isSettled t.name) = true →
      ∀ later s', s.steps later = some s' → t.name ∉ s'.calls.map Prod.snd) ∧
    (s.watch = .closing ∨ s.watch.isClosed = true →
      ∀ t ∈ s.tasks, s.settlement.isSettled t.name = true ∨ t.cancelled = true) := by
  have hrun := run_of_steps h
  have hsound := hrun.sound
  refine ⟨?_, ?_, hrun.called.nodup, fun t ht hb later s' hl => hrun.not_called ht hb hl, ?_⟩
  · intro ha hg
    refine hrun.sparing.cancelled fun hp => ?_
    rcases hrun.requested_of_aborted hp with ha' | hg'
    · rw [ha] at ha'
      cases ha'
    · exact hg hg'
  · intro hp name
    have hc := (hrun.verdict.decided hp).2
    rw [cancelUnsettled]
    cases ht : s.task? name with
    | none => split <;> rfl
    | some t =>
      obtain ⟨hm, rfl⟩ := task?_eq_some ht
      rw [if_pos (hsound.isSettled_of_isComplete hc (List.mem_map_of_mem hm))]
  · intro hw t ht
    have hswept : s.watch.unswept? = some [] := by
      cases hx : s.watch with
      | closing | reporting _ | «over» _ => rfl
      | _ => rw [hx] at hw; rcases hw with hw | hw <;> cases hw
    exact (hrun.swept [] hswept t ht).resolve_left nofun

end Reachable

def awaiting : List Action :=
  [.submit "a/A", .schedule "a/A", .submit "b/B", .schedule "b/B", .launch, .take "a/A",
    .check "a/A", .equip "a/A" .made, .call "a/A"]

def timeOut (name : String) : List Action :=
  .fire name :: (List.replicate 7 (.advance .timer name false)).concat (.cancel name)

theorem cancellation_confined_when_overtaken :
    ∃ s, (initial ⟨1, Duration.ofSeconds 5⟩ false ["a/A", "b/B"]).steps
        (awaiting ++ timeOut "a/A" ++ timeOut "b/B") = some s ∧
      s.task? "b/B" = some ⟨"b/B", .queued, .over, true⟩ ∧
      ("b/B", .timedOut (Source.timeoutStub "b/B")) ∈ s.settlement.ledger.results ∧
      ∀ later s', s.steps later = some s' → "b/B" ∉ s'.calls.map Prod.snd := by
  have hfinal : ((initial ⟨1, Duration.ofSeconds 5⟩ false ["a/A", "b/B"]).steps
      (awaiting ++ timeOut "a/A" ++ timeOut "b/B")).any (fun s => s.abortRequested = false ∧
        s.task? "b/B" = some ⟨"b/B", .queued, .over, true⟩) = true := by decide
  obtain ⟨s, hs, hfinal⟩ := (Option.any_eq_true _ _).mp hfinal
  obtain ⟨ha, ht⟩ := of_decide_eq_true hfinal
  have hm := (task?_eq_some ht).1
  obtain ⟨hcancelled, _, _, hbarred, _⟩ := cancellation_confined _ _ _ _ s hs
  refine ⟨s, hs, ht, hcancelled ha (by decide) _ hm rfl, fun later s' hl => ?_⟩
  exact hbarred _ hm (Bool.or_true _) later s' hl

end System

end ClassBatch.Batch
