import ClassBatch.Batch.System
import Mathlib.Tactic.Lemma

/-! The steps of a batch as rules: what each needs, and what it changes. -/

namespace ClassBatch.Batch

def Task.resume (t : Task) : Side → Attempt → Task
  | .worker, attempt => { t with work := .settling attempt }
  | .timer, .over true => { t with expiry := .cancelling }
  | .timer, .over false => { t with expiry := .over }
  | .timer, attempt => { t with expiry := .settling attempt }

def Action.name? : Action → Option String
  | .submit name | .schedule name | .take name | .check name | .equip name _ | .call name
  | .reply name _ | .time name _ | .fire name | .advance _ name _ | .cancel name => some name
  | _ => none

namespace System

inductive AttemptRule (s : System) (name : String) (panics : Bool) :
    Attempt → Attempt → System → Prop
  | acquire (outcome : Outcome) (duration : Duration) : s.delivering = false →
      AttemptRule s name panics (.ready outcome duration) (.holding outcome duration)
        { s with delivering := true }
  | win (outcome : Outcome) (duration : Duration) : s.settlement.isSettled name = false →
      AttemptRule s name panics (.holding outcome duration) (.won outcome duration)
        { s with settlement := { s.settlement with flags := name :: s.settlement.flags } }
  | lose (outcome : Outcome) (duration : Duration) : s.settlement.isSettled name = true →
      AttemptRule s name panics (.holding outcome duration) (.over false)
        { s with delivering := false }
  | enter (outcome : Outcome) (duration : Duration) : s.settlement.ledger.accepts name = true →
      AttemptRule s name panics (.won outcome duration)
        (.entered (s.settlement.ledger.enter name outcome duration).progress)
        { s with settlement :=
          { s.settlement with ledger := s.settlement.ledger.enter name outcome duration } }
  | refuse (outcome : Outcome) (duration : Duration) :
      s.settlement.ledger.accepts name = false →
      AttemptRule s name panics (.won outcome duration) (.over false)
        { s with delivering := false }
  | report (progress : Progress) :
      AttemptRule s name panics (.entered progress) .reporting
        { s with reports := s.reports ++ [progress] }
  | finish :
      AttemptRule s name panics .reporting .reported
        { s with returned := s.returned + 1, panics := s.panics + panics.toNat }
  | release :
      AttemptRule s name panics .reported .telling { s with delivering := false }
  | tell : s.phaseLocked = false →
      AttemptRule s name panics .telling (.over true) s.tell

inductive TaskRule (s : System) (t : Task) : Action → Task → System → Prop
  | submit : t.work = .unsubmitted → s.isNext t = true →
      TaskRule s t (.submit t.name) { t with work := .queued } s
  | schedule : t.work ≠ .unsubmitted → t.expiry = .unscheduled →
      TaskRule s t (.schedule t.name) { t with expiry := .scheduled } s
  | take : t.work = .queued → s.activeWorkers < s.config.workers →
      s.settlement.isSettled t.name = false →
      TaskRule s t (.take t.name) { t with work := .taken } s
  | skipSettled : t.work = .queued → s.activeWorkers < s.config.workers →
      s.settlement.isSettled t.name = true →
      TaskRule s t (.take t.name) { t with work := .skipped } s
  | check : t.work = .taken → t.cancelled = false →
      TaskRule s t (.check t.name) { t with work := .checked } s
  | skipCancelled : t.work = .taken → t.cancelled = true →
      TaskRule s t (.check t.name) { t with work := .skipped } s
  | share (creation : Creation) : t.work = .checked → s.fresh = false →
      TaskRule s t (.equip t.name creation) { t with work := .equipped 0 } s
  | create : t.work = .checked → s.fresh = true →
      TaskRule s t (.equip t.name .made) { t with work := .equipped s.created }
        { s with created := s.created + 1 }
  | createRefused (cause : DecompileError) : t.work = .checked → s.fresh = true →
      TaskRule s t (.equip t.name (.refused cause))
        { t with work := .answered (failure t.name cause) } { s with created := s.created + 1 }
  | createPanicked : t.work = .checked → s.fresh = true →
      TaskRule s t (.equip t.name .panicked) { t with work := .lost }
        { s with created := s.created + 1 }
  | call (backend : Nat) : t.work = .equipped backend →
      TaskRule s t (.call t.name) { t with work := .calling backend }
        { s with calls := s.calls ++ [(backend, t.name)] }
  | reply (backend : Nat) (reply : Reply) : t.work = .calling backend →
      TaskRule s t (.reply t.name reply) { t with work := .answered (reply.outcome t.name) } s
  | time (outcome : Outcome) (duration : Duration) : t.work = .answered outcome →
      TaskRule s t (.time t.name duration)
        { t with work := .settling (.ready outcome duration) } s
  | fire : t.expiry = .scheduled → s.timerOpen = true → s.tasks.any Task.isExpiring = false →
      TaskRule s t (.fire t.name)
        { t with expiry := .settling (.ready (expired t.name) s.config.timeout) } s
  | advanceWorker {panics : Bool} {attempt attempt' : Attempt} {s' : System} :
      t.work = .settling attempt → AttemptRule s t.name panics attempt attempt' s' →
      TaskRule s t (.advance .worker t.name panics) (t.resume .worker attempt') s'
  | advanceTimer {panics : Bool} {attempt attempt' : Attempt} {s' : System} :
      t.expiry = .settling attempt → AttemptRule s t.name panics attempt attempt' s' →
      TaskRule s t (.advance .timer t.name panics) (t.resume .timer attempt') s'
  | cancel : t.expiry = .cancelling →
      TaskRule s t (.cancel t.name) { t with expiry := .over, cancelled := true } s

inductive WatchRule (s : System) : Action → System → Prop
  | launch : s.watch = .absent → (∀ t ∈ s.tasks, t.expiry ≠ .unscheduled) →
      WatchRule s .launch { s with phase := .running, watch := .outside }
  | requestAbort : s.watch ≠ .absent →
      WatchRule s .requestAbort
        { s with abortRequested := true, abortSignals := s.abortSignals + 1 }
  | signalAbort : s.abortSignals ≠ 0 → s.phaseLocked = false →
      WatchRule s .signalAbort { s.tell with abortSignals := s.abortSignals - 1 }
  | lock : s.watch = .outside → WatchRule s .lock { s with watch := .locked }
  | heedAbort : s.watch = .locked → s.abortRequested = true →
      WatchRule s .testAbort (s.decide .aborted)
  | findUnaborted : s.watch = .locked → s.abortRequested = false →
      WatchRule s .testAbort { s with watch := .unaborted }
  | findComplete : s.watch = .unaborted → s.settlement.ledger.isComplete = true →
      WatchRule s .testComplete (s.decide .completed)
  | findIncomplete : s.watch = .unaborted → s.settlement.ledger.isComplete = false →
      WatchRule s .testComplete { s with watch := .incomplete }
  | giveUp : s.watch = .incomplete → WatchRule s .giveUp (s.decide .aborted)
  | sleep : s.watch = .incomplete → WatchRule s .sleep { s with watch := .asleep false }
  | wake : s.watch = .asleep true → WatchRule s .wake { s with watch := .outside }
  | stir : s.watch = .asleep false → WatchRule s .stir { s with watch := .outside }
  | sweepNext (name : String) (names : List String) : s.watch = .sweeping (name :: names) →
      WatchRule s .sweep { s.cancelUnsettled name with watch := .sweeping names }
  | sweepEnd : s.watch = .sweeping [] → WatchRule s .sweep { s with watch := .closing }
  | closeCompleted : s.watch = .closing → s.tasks.any Task.isExpiring = false →
      s.phase = .completed →
      WatchRule s .close
        { s with timerOpen := false, watch := .reporting s.settlement.ledger }
  | closeAborted : s.watch = .closing → s.tasks.any Task.isExpiring = false →
      s.phase ≠ .completed →
      WatchRule s .close { s with timerOpen := false, watch := .over .aborted }
  | complete (ledger : Ledger) : s.watch = .reporting ledger →
      WatchRule s (.complete false)
        { s with completions := s.completions ++ [ledger], watch := .over (.completed ledger) }
  | completePanicked (ledger : Ledger) : s.watch = .reporting ledger →
      WatchRule s (.complete true)
        { s with completions := s.completions ++ [ledger], watch := .over .panicked }

variable {s s' : System} {t : Task} {name : String} {action : Action}

lemma attemptRule_of_advance {panics : Bool} {attempt attempt' : Attempt}
    (h : s.advance name panics attempt = some (attempt', s')) :
    AttemptRule s name panics attempt attempt' s' := by
  cases attempt with
  | ready outcome duration =>
    simp only [advance] at h
    cases hd : s.delivering with
    | true => simp [hd] at h
    | false =>
      simp only [hd, Bool.false_eq_true, if_false, Option.some.injEq, Prod.mk.injEq] at h
      obtain ⟨rfl, rfl⟩ := h
      exact .acquire outcome duration hd
  | holding outcome duration =>
    cases hs : s.settlement.isSettled name with
    | true =>
      simp only [advance, Settlement.trySettle, hs, if_true, Option.some.injEq, Prod.mk.injEq] at h
      obtain ⟨rfl, rfl⟩ := h
      exact .lose outcome duration hs
    | false =>
      simp only [advance, Settlement.trySettle, hs, Bool.false_eq_true, if_false,
        Option.some.injEq, Prod.mk.injEq] at h
      obtain ⟨rfl, rfl⟩ := h
      exact .win outcome duration hs
  | won outcome duration =>
    cases ha : s.settlement.ledger.accepts name with
    | true =>
      simp only [advance, Settlement.record, Ledger.record?, ha, if_true, Option.some.injEq,
        Prod.mk.injEq] at h
      obtain ⟨rfl, rfl⟩ := h
      exact .enter outcome duration ha
    | false =>
      simp only [advance, Settlement.record, Ledger.record?, ha, Bool.false_eq_true, if_false,
        Option.some.injEq, Prod.mk.injEq] at h
      obtain ⟨rfl, rfl⟩ := h
      exact .refuse outcome duration ha
  | entered progress =>
    obtain ⟨rfl, rfl⟩ := Prod.mk.inj (Option.some.inj h)
    exact .report progress
  | reporting =>
    obtain ⟨rfl, rfl⟩ := Prod.mk.inj (Option.some.inj h)
    exact .finish
  | reported =>
    obtain ⟨rfl, rfl⟩ := Prod.mk.inj (Option.some.inj h)
    exact .release
  | telling =>
    simp only [advance] at h
    cases hl : s.phaseLocked with
    | true => simp [hl] at h
    | false =>
      simp only [hl, Bool.false_eq_true, if_false, Option.some.injEq, Prod.mk.injEq] at h
      obtain ⟨rfl, rfl⟩ := h
      exact .tell hl
  | «over» settled => cases h

lemma taskRule_of_advance {side : Side} {panics : Bool}
    (h : s.stepTask t (.advance side t.name panics) = some s') :
    ∃ t' s₁, TaskRule s t (.advance side t.name panics) t' s₁ ∧ s' = s₁.setTask t' := by
  cases side with
  | worker =>
    cases hw : t.work <;> simp only [stepTask, hw, reduceCtorEq] at h
    obtain ⟨⟨attempt', s₁⟩, ha, hs⟩ := Option.bind_eq_some_iff.mp h
    exact ⟨_, s₁, .advanceWorker hw (attemptRule_of_advance ha), (Option.some.inj hs).symm⟩
  | timer =>
    cases he : t.expiry <;> simp only [stepTask, he, reduceCtorEq] at h
    obtain ⟨⟨attempt', s₁⟩, ha, hs⟩ := Option.bind_eq_some_iff.mp h
    refine ⟨_, s₁, .advanceTimer he (attemptRule_of_advance ha), ?_⟩
    rw [← Option.some.inj hs]
    cases attempt' with
    | «over» settled => cases settled <;> rfl
    | _ => rfl

lemma taskRule_of_equip {creation : Creation}
    (h : s.stepTask t (.equip t.name creation) = some s') :
    ∃ t' s₁, TaskRule s t (.equip t.name creation) t' s₁ ∧ s' = s₁.setTask t' := by
  simp only [stepTask] at h
  by_cases hw : t.work = .checked
  · rw [if_neg (not_not_intro hw)] at h
    cases hf : s.fresh with
    | false =>
      rw [if_neg (by rw [hf]; exact Bool.false_ne_true)] at h
      exact ⟨_, _, .share creation hw hf, (Option.some.inj h).symm⟩
    | true =>
      rw [if_pos hf] at h
      cases creation with
      | made => exact ⟨_, _, .create hw hf, (Option.some.inj h).symm⟩
      | refused cause => exact ⟨_, _, .createRefused cause hw hf, (Option.some.inj h).symm⟩
      | panicked => exact ⟨_, _, .createPanicked hw hf, (Option.some.inj h).symm⟩
  · rw [if_pos hw] at h
    cases h

lemma taskRule_of_stepTask (hn : action.name? = some t.name) (h : s.stepTask t action = some s') :
    ∃ t' s₁, TaskRule s t action t' s₁ ∧ s' = s₁.setTask t' := by
  cases action with
  | submit name =>
    cases hn
    simp only [stepTask, Option.ite_none_right_eq_some, Bool.and_eq_true, decide_eq_true_eq] at h
    obtain ⟨⟨hw, hn⟩, hs⟩ := h
    exact ⟨_, _, .submit hw hn, (Option.some.inj hs).symm⟩
  | schedule name =>
    cases hn
    simp only [stepTask, Option.ite_none_right_eq_some, Bool.and_eq_true, decide_eq_true_eq] at h
    obtain ⟨⟨hw, he⟩, hs⟩ := h
    exact ⟨_, _, .schedule hw he, (Option.some.inj hs).symm⟩
  | take name =>
    cases hn
    simp only [stepTask, Option.ite_none_right_eq_some, Bool.and_eq_true, decide_eq_true_eq] at h
    obtain ⟨⟨hw, ha⟩, hs⟩ := h
    cases hf : s.settlement.isSettled t.name with
    | true =>
      rw [hf, if_pos rfl] at hs
      exact ⟨_, _, .skipSettled hw ha hf, (Option.some.inj hs).symm⟩
    | false =>
      rw [hf, if_neg Bool.false_ne_true] at hs
      exact ⟨_, _, .take hw ha hf, (Option.some.inj hs).symm⟩
  | check name =>
    cases hn
    simp only [stepTask, Option.ite_none_right_eq_some] at h
    obtain ⟨hw, hs⟩ := h
    cases hc : t.cancelled with
    | true =>
      rw [hc, if_pos rfl] at hs
      exact ⟨_, _, .skipCancelled hw hc, (Option.some.inj hs).symm⟩
    | false =>
      rw [hc, if_neg Bool.false_ne_true] at hs
      exact ⟨_, _, .check hw hc, (Option.some.inj hs).symm⟩
  | equip name creation =>
    cases hn
    exact taskRule_of_equip h
  | call name =>
    cases hn
    cases hw : t.work <;> simp only [stepTask, hw, reduceCtorEq] at h
    exact ⟨_, _, .call _ hw, (Option.some.inj h).symm⟩
  | reply name reply =>
    cases hn
    cases hw : t.work <;> simp only [stepTask, hw, reduceCtorEq] at h
    exact ⟨_, _, .reply _ reply hw, (Option.some.inj h).symm⟩
  | time name duration =>
    cases hn
    cases hw : t.work <;> simp only [stepTask, hw, reduceCtorEq] at h
    exact ⟨_, _, .time _ duration hw, (Option.some.inj h).symm⟩
  | fire name =>
    cases hn
    simp only [stepTask, Option.ite_none_right_eq_some, Bool.and_eq_true, decide_eq_true_eq,
      Bool.not_eq_true'] at h
    obtain ⟨⟨⟨he, ho⟩, hi⟩, hs⟩ := h
    exact ⟨_, _, .fire he ho hi, (Option.some.inj hs).symm⟩
  | advance side name panics =>
    cases hn
    exact taskRule_of_advance h
  | cancel name =>
    cases hn
    simp only [stepTask, Option.ite_none_right_eq_some] at h
    exact ⟨_, _, .cancel h.1, (Option.some.inj h.2).symm⟩
  | _ => cases hn

lemma watchRule_of_sweep (h : s.sweep = some s') : WatchRule s .sweep s' := by
  cases hw : s.watch <;> simp only [sweep, hw, reduceCtorEq] at h
  rename_i names
  cases names with
  | nil =>
    cases h
    exact .sweepEnd hw
  | cons name names =>
    cases h
    exact .sweepNext name names hw

lemma watchRule_of_close (h : s.close = some s') : WatchRule s .close s' := by
  simp only [close, Option.ite_none_right_eq_some, Bool.and_eq_true, decide_eq_true_eq,
    Bool.not_eq_true'] at h
  obtain ⟨⟨hw, hi⟩, hs⟩ := h
  cases hs
  by_cases hp : s.phase = .completed
  · rw [if_pos hp]
    exact .closeCompleted hw hi hp
  · rw [if_neg hp]
    exact .closeAborted hw hi hp

lemma watchRule_of_step (hn : action.name? = none) (h : s.step action = some s') :
    WatchRule s action s' := by
  cases action with
  | launch =>
    simp only [step, launch, Option.ite_none_right_eq_some, Bool.and_eq_true, decide_eq_true_eq,
      List.all_eq_true] at h
    obtain ⟨⟨hw, ht⟩, hs⟩ := h
    cases hs
    exact .launch hw ht
  | requestAbort =>
    simp only [step, Option.ite_none_left_eq_some] at h
    obtain ⟨hw, hs⟩ := h
    cases hs
    exact .requestAbort hw
  | signalAbort =>
    simp only [step, Option.ite_none_left_eq_some, Bool.or_eq_true, decide_eq_true_eq, not_or,
      Bool.not_eq_true] at h
    obtain ⟨⟨ha, hl⟩, hs⟩ := h
    cases hs
    exact .signalAbort ha hl
  | lock =>
    simp only [step, Option.ite_none_right_eq_some] at h
    obtain ⟨hw, hs⟩ := h
    cases hs
    exact .lock hw
  | testAbort =>
    simp only [step, Option.ite_none_left_eq_some, ne_eq, Decidable.not_not] at h
    obtain ⟨hw, hs⟩ := h
    cases ha : s.abortRequested with
    | true =>
      rw [if_pos ha] at hs
      cases hs
      exact .heedAbort hw ha
    | false =>
      rw [if_neg (by rw [ha]; exact Bool.false_ne_true)] at hs
      cases hs
      exact .findUnaborted hw ha
  | testComplete =>
    simp only [step, Option.ite_none_left_eq_some, ne_eq, Decidable.not_not] at h
    obtain ⟨hw, hs⟩ := h
    cases hc : s.settlement.ledger.isComplete with
    | true =>
      rw [if_pos hc] at hs
      cases hs
      exact .findComplete hw hc
    | false =>
      rw [if_neg (by rw [hc]; exact Bool.false_ne_true)] at hs
      cases hs
      exact .findIncomplete hw hc
  | giveUp =>
    simp only [step, Option.ite_none_right_eq_some] at h
    obtain ⟨hw, hs⟩ := h
    cases hs
    exact .giveUp hw
  | sleep =>
    simp only [step, Option.ite_none_right_eq_some] at h
    obtain ⟨hw, hs⟩ := h
    cases hs
    exact .sleep hw
  | wake =>
    simp only [step, Option.ite_none_right_eq_some] at h
    obtain ⟨hw, hs⟩ := h
    cases hs
    exact .wake hw
  | stir =>
    simp only [step, Option.ite_none_right_eq_some] at h
    obtain ⟨hw, hs⟩ := h
    cases hs
    exact .stir hw
  | sweep => exact watchRule_of_sweep h
  | close => exact watchRule_of_close h
  | complete panics =>
    cases hw : s.watch <;> simp only [step, hw, reduceCtorEq] at h
    cases h
    cases panics with
    | true => exact .completePanicked _ hw
    | false => exact .complete _ hw
  | _ => cases hn

lemma task?_eq_some (h : s.task? name = some t) : t ∈ s.tasks ∧ t.name = name :=
  ⟨List.mem_of_find?_eq_some h, by simpa using List.find?_some h⟩

lemma step_eq_bind (hn : action.name? = some name) :
    s.step action = (s.task? name).bind fun t => s.stepTask t action := by
  cases action <;> cases hn <;> rfl

theorem rule_of_step (h : s.step action = some s') :
    (∃ t ∈ s.tasks, ∃ t' s₁, TaskRule s t action t' s₁ ∧ s' = s₁.setTask t') ∨
      WatchRule s action s' := by
  cases hn : action.name? with
  | none => exact Or.inr (watchRule_of_step hn h)
  | some name =>
    rw [step_eq_bind hn] at h
    obtain ⟨t, ht, hs⟩ := Option.bind_eq_some_iff.mp h
    obtain ⟨hm, rfl⟩ := task?_eq_some ht
    exact Or.inl ⟨t, hm, taskRule_of_stepTask hn hs⟩

end System

end ClassBatch.Batch
