import ClassBatch.Proofs.Batch.Liveness

/-! Waking the orchestrator. It looks at flags that the phase lock does not guard, and sleeps when it
finds nothing; whoever changes one of them after that look is yet to take the lock and tell it. -/

namespace ClassBatch.Batch

namespace Watch

def trustsAbortTest : Watch → Bool
  | .unaborted | .incomplete | .asleep false => true
  | _ => false

def trustsTests : Watch → Bool
  | .incomplete | .asleep false => true
  | _ => false

lemma trustsAbortTest_of_trustsTests {watch : Watch} (h : watch.trustsTests = true) :
    watch.trustsAbortTest = true := by
  cases watch with
  | incomplete => rfl
  | asleep told =>
    cases told with
    | false => rfl
    | true => cases h
  | _ => cases h

end Watch

lemma Attempt.isRecorded_inner : Attempt.Inner Attempt.isRecorded :=
  ⟨fun _ _ => rfl, fun _ => rfl⟩

lemma Attempt.not_isOver_of_isRecorded {attempt : Attempt} (h : attempt.isRecorded = true) :
    attempt.isOver = false := by
  cases attempt with
  | «over» settled => cases h
  | _ => rfl

namespace System

variable {s s' s₁ : System} {t t' : Task} {side : Side} {attempt attempt' : Attempt}
  {action : Action} {name : String} {panics : Bool}

/-- Whoever has changed what the orchestrator relies on is yet to tell it. -/
structure Alert (s : System) : Prop where
  abort : s.watch.trustsAbortTest = true → s.abortRequested = true → 0 < s.abortSignals
  complete : s.watch.trustsTests = true → s.settlement.ledger.isComplete = true →
    0 < s.tally Attempt.isRecorded

lemma trustsAbortTest_tell (hl : s.phaseLocked = false) :
    s.tell.watch.trustsAbortTest = false := by
  cases hw : s.watch with
  | unaborted | incomplete =>
    rw [phaseLocked, hw] at hl
    cases hl
  | asleep told => simp only [tell, hw, Watch.trustsAbortTest]
  | _ => simp only [tell, hw, Watch.trustsAbortTest]

lemma AttemptRule.abortSignals (h : AttemptRule s name panics attempt attempt' s') :
    s'.abortSignals = s.abortSignals := by
  cases h with
  | tell _ => rw [tell_eq]
  | _ => rfl

lemma AttemptRule.watch_eq (h : AttemptRule s name panics attempt attempt' s')
    (hw : s'.watch.trustsAbortTest = true) : s'.watch = s.watch := by
  cases h with
  | tell hl =>
    rw [trustsAbortTest_tell hl] at hw
    cases hw
  | _ => rfl

lemma TaskRule.abortSignals (h : TaskRule s t action t' s₁) :
    s₁.abortSignals = s.abortSignals := by
  cases h with
  | advanceWorker _ ha | advanceTimer _ ha => exact ha.abortSignals
  | _ => rfl

lemma TaskRule.watch_eq (h : TaskRule s t action t' s₁) (hw : s₁.watch.trustsAbortTest = true) :
    s₁.watch = s.watch := by
  cases h with
  | advanceWorker _ ha | advanceTimer _ ha => exact ha.watch_eq hw
  | _ => rfl

lemma AttemptRule.recorded (h : AttemptRule s name panics attempt attempt' s')
    (hw : s'.watch.trustsTests = true) :
    attempt'.isRecorded = true ∨ attempt.isRecorded = false ∧ attempt'.isRecorded = false ∧
      s'.settlement.ledger = s.settlement.ledger := by
  cases h with
  | enter _ _ _ | report _ | finish | release => exact Or.inl rfl
  | tell hl =>
    have hw := Watch.trustsAbortTest_of_trustsTests hw
    rw [trustsAbortTest_tell hl] at hw
    cases hw
  | _ => exact Or.inr ⟨rfl, rfl, rfl⟩

namespace Alert

lemma advance (h : s.Alert) (hs : (s.tasks.map Task.name).Nodup) (ht : t ∈ s.tasks)
    (ha : t.attempt? side = some attempt) (hr : AttemptRule s t.name panics attempt attempt' s₁)
    (hw : s₁.watch.trustsTests = true) (hc : s₁.settlement.ledger.isComplete = true) :
    0 < (s₁.setTask (t.resume side attempt')).tally Attempt.isRecorded := by
  have htally := tally_resumed hs ht hr.tasks ha Attempt.isRecorded_inner attempt'
  rcases hr.recorded hw with hrecorded | ⟨hno, hno', hledger⟩
  · have ho := Attempt.not_isOver_of_isRecorded hrecorded
    refine tally_pos ?_ (attempt?_resumed hs ht hr.tasks side ho) hrecorded
    rwa [setTask_names, hr.tasks]
  · have hwatch := hr.watch_eq (Watch.trustsAbortTest_of_trustsTests hw)
    have hpos := h.complete (hwatch ▸ hw) (hledger ▸ hc)
    rw [hno, hno'] at htally
    omega

lemma taskRule (h : s.Alert) (hs : (s.tasks.map Task.name).Nodup) (ht : t ∈ s.tasks)
    (hr : TaskRule s t action t' s₁) : (s₁.setTask t').Alert := by
  refine ⟨?_, ?_⟩
  · intro hw ha
    change 0 < s₁.abortSignals
    rw [hr.abortSignals]
    exact h.abort (hr.watch_eq hw ▸ hw) (hr.abortRequested ▸ ha)
  · intro hw hc
    have hwatch := hr.watch_eq (Watch.trustsAbortTest_of_trustsTests hw)
    cases hr.effect hs ht with
    | aside _ hu =>
      rw [hu.tally_eq Attempt.isRecorded_inner]
      exact h.complete (hwatch ▸ hw) (hu.settlement ▸ hc)
    | advance ht' _ ha hr' hs' =>
      rw [hs'] at hw hc ⊢
      exact h.advance hs ht' ha hr' hw hc

lemma watchRule (h : s.Alert) (hr : WatchRule s action s') : s'.Alert := by
  cases hr with
  | requestAbort _ => exact ⟨fun _ _ => Nat.succ_pos _, h.complete⟩
  | signalAbort _ hl =>
    have hw : s.tell.watch.trustsAbortTest = false := trustsAbortTest_tell hl
    refine ⟨fun htrust _ => ?_, fun htrust _ => ?_⟩
    · rw [hw] at htrust
      cases htrust
    · have htrust := Watch.trustsAbortTest_of_trustsTests htrust
      rw [hw] at htrust
      cases htrust
  | findUnaborted _ ha =>
    refine ⟨fun _ hreq => ?_, nofun⟩
    rw [ha] at hreq
    cases hreq
  | findIncomplete hw hc =>
    refine ⟨fun _ => h.abort (by rw [hw]; rfl), fun _ hcomplete => ?_⟩
    rw [hc] at hcomplete
    cases hcomplete
  | sleep hw =>
    exact ⟨fun _ => h.abort (by rw [hw]; rfl), fun _ => h.complete (by rw [hw]; rfl)⟩
  | _ => exact ⟨nofun, nofun⟩

lemma step (h : s.Alert) (hs : (s.tasks.map Task.name).Nodup)
    (hstep : s.step action = some s') : s'.Alert := by
  rcases rule_of_step hstep with ⟨t, ht, t', s₁, hr, rfl⟩ | hr
  · exact h.taskRule hs ht hr
  · exact h.watchRule hr

lemma initial (config : Config) (fresh : Bool) (names : List String) :
    (System.initial config fresh names).Alert :=
  ⟨nofun, nofun⟩

end Alert

lemma advance_recorded (s : System) (name : String) (hr : attempt.isRecorded = true)
    (hne : attempt ≠ .telling) :
    ∃ attempt' s₁, s.advance name false attempt = some (attempt', s₁) ∧
      attempt'.isRecorded = true ∧ attempt.rank = attempt'.rank + 1 ∧ s₁.tasks = s.tasks ∧
      s₁.watch = s.watch := by
  cases attempt with
  | entered progress => exact ⟨_, _, rfl, rfl, rfl, rfl, rfl⟩
  | reporting => exact ⟨_, _, rfl, rfl, rfl, rfl, rfl⟩
  | reported => exact ⟨_, _, rfl, rfl, rfl, rfl, rfl⟩
  | telling => exact absurd rfl hne
  | _ => cases hr

lemma exists_told (hs : (s.tasks.map Task.name).Nodup) (ht : t ∈ s.tasks)
    (ha : t.attempt? side = some attempt) (hr : attempt.isRecorded = true) {told : Bool}
    (hw : s.watch = .asleep told) :
    ∃ s', s.steps (List.replicate attempt.rank (.advance side t.name false)) = some s' ∧
      s'.watch = .asleep true := by
  induction hn : attempt.rank generalizing s t attempt with
  | zero => cases attempt <;> cases hr <;> cases hn
  | succ n ih =>
    rw [List.replicate_succ, steps_cons]
    by_cases htelling : attempt = .telling
    · subst htelling
      have hl : s.phaseLocked = false := by rw [phaseLocked, hw]
      have htell : s.advance t.name false .telling = some (.over true, s.tell) := by
        rw [advance, hl]
        rfl
      rw [step_advance hs ht ha htell, Option.bind_some, ← Nat.succ.inj hn]
      refine ⟨_, rfl, ?_⟩
      change s.tell.watch = .asleep true
      simp only [tell, hw]
    · obtain ⟨attempt', s₁, hadvance, hr', hrank, htasks, hwatch⟩ :=
        advance_recorded s t.name hr htelling
      rw [step_advance hs ht ha hadvance, Option.bind_some]
      rw [← htasks] at hs ht
      have hmem : t.resume side attempt' ∈ (s₁.setTask (t.resume side attempt')).tasks :=
        (mem_setTask_iff (t.resume_name side attempt') ht).mpr (Or.inl rfl)
      have ha' : (t.resume side attempt').attempt? side = some attempt' :=
        Task.attempt?_resume (Attempt.not_isOver_of_isRecorded hr') t side
      have hnames : ((s₁.setTask (t.resume side attempt')).tasks.map Task.name).Nodup := by
        rwa [setTask_names]
      have htold := ih hnames hmem ha' hr' (hwatch.trans hw) (by omega)
      rwa [Task.resume_name] at htold

section Reachable

variable {config : Config} {fresh : Bool} {names : List String} {actions : List Action}

lemma Run.alert (h : Run (initial config fresh names) actions s) : s.Alert := by
  induction h with
  | nil => exact Alert.initial config fresh names
  | concat hrun hstep ih => exact ih.step hrun.sound.nodup hstep

lemma exists_decision_of_told (hw : s.watch = .asleep true) :
    (s.abortRequested = true → ∃ s', s.steps [.wake, .lock, .testAbort] = some s' ∧
      s'.phase = .aborted) ∧
    (s.abortRequested = false → s.settlement.ledger.isComplete = true →
      ∃ s', s.steps [.wake, .lock, .testAbort, .testComplete] = some s' ∧
        s'.phase = .completed) := by
  have hawake (actions : List Action) : s.steps (.wake :: .lock :: actions) =
      { s with watch := .locked }.steps actions := by
    rw [steps_cons, show s.step .wake = some { s with watch := .outside } from if_pos hw]
    rfl
  constructor
  · intro ha
    have hdecide : { s with watch := .locked }.step .testAbort = some (s.decide .aborted) :=
      if_pos ha
    rw [hawake, steps_cons, hdecide]
    exact ⟨_, rfl, rfl⟩
  · intro ha hc
    have htest : { s with watch := .locked }.step .testAbort =
        some { s with watch := .unaborted } := if_neg (Bool.eq_false_iff.mp ha)
    have hdecide : { s with watch := .unaborted }.step .testComplete =
        some (s.decide .completed) := if_pos hc
    rw [hawake, steps_cons, htest, Option.bind_some, steps_cons, hdecide]
    exact ⟨_, rfl, rfl⟩

/-- If the orchestrator sleeps untold while the batch is complete or an abort is requested, then
somebody who has entered an outcome or requested the abort is yet to tell it, and can. Once nobody
is, the orchestrator is told, and comes to its decision by itself. -/
theorem no_lost_wakeup (config : Config) (fresh : Bool) (names : List String)
    (actions : List Action) (s : System) (told : Bool)
    (h : (initial config fresh names).steps actions = some s) (hw : s.watch = .asleep told) :
    (told = false → s.settlement.ledger.isComplete = true →
      ∃ side name attempt, s.attempt? side name = some attempt ∧ attempt.isRecorded = true ∧
        ∃ s', s.steps (List.replicate attempt.rank (.advance side name false)) = some s' ∧
          s'.watch = .asleep true) ∧
    (told = false → s.abortRequested = true →
      0 < s.abortSignals ∧ ∃ s', s.step .signalAbort = some s' ∧ s'.watch = .asleep true) ∧
    ((∀ side name attempt, s.attempt? side name = some attempt → attempt.isRecorded = false) →
      s.abortSignals = 0 → s.abortRequested = true ∨ s.settlement.ledger.isComplete = true →
      told = true ∧
      (s.abortRequested = true → ∃ s', s.steps [.wake, .lock, .testAbort] = some s' ∧
        s'.phase = .aborted) ∧
      (s.abortRequested = false →
        ∃ s', s.steps [.wake, .lock, .testAbort, .testComplete] = some s' ∧
          s'.phase = .completed)) := by
  have hrun := run_of_steps h
  have hs := hrun.sound.nodup
  obtain ⟨habort, hcomplete⟩ := hrun.alert
  have hcomplete (hf : told = false) (hc : s.settlement.ledger.isComplete = true) :
      s.tally Attempt.isRecorded ≠ 0 :=
    (hcomplete (by rw [hw, hf]; rfl) hc).ne'
  have habort (hf : told = false) (ha : s.abortRequested = true) : s.abortSignals ≠ 0 :=
    (habort (by rw [hw, hf]; rfl) ha).ne'
  refine ⟨?_, ?_, ?_⟩
  · intro hf hc
    have hne := hcomplete hf hc
    rw [Ne, tally_eq_zero_iff hs] at hne
    push Not at hne
    obtain ⟨side, name, attempt, hself, hr⟩ := hne
    have hr : attempt.isRecorded = true := Bool.eq_true_of_not_eq_false hr
    obtain ⟨t, ht, rfl, ha⟩ := exists_task_of_attempt? hself
    exact ⟨side, t.name, attempt, hself, hr, exists_told hs ht ha hr hw⟩
  · intro hf ha
    have hne := habort hf ha
    have hsignal : s.step .signalAbort = some { s.tell with abortSignals := s.abortSignals - 1 } := by
      rw [step, phaseLocked, hw, decide_eq_false hne]
      rfl
    refine ⟨Nat.pos_of_ne_zero hne, _, hsignal, ?_⟩
    change s.tell.watch = .asleep true
    simp only [tell, hw]
  · intro hnone hzero hreason
    have htold : told = true := by
      refine Bool.eq_true_of_not_eq_false fun hf => ?_
      rcases hreason with ha | hc
      · exact habort hf ha hzero
      · exact hcomplete hf hc ((tally_eq_zero_iff hs).mpr hnone)
    obtain ⟨hdecide, hdecide'⟩ := exists_decision_of_told (htold ▸ hw)
    refine ⟨htold, hdecide, fun ha => hdecide' ha (hreason.resolve_left ?_)⟩
    rw [ha]
    exact Bool.false_ne_true

end Reachable

def unheard : List Action :=
  [.submit "a/A", .schedule "a/A", .launch, .lock, .testAbort, .testComplete, .sleep, .take "a/A",
    .check "a/A", .equip "a/A" .made, .call "a/A", .reply "a/A" (.source "class A {}"),
    .time "a/A" (Duration.ofSeconds 1), .advance .worker "a/A" false, .advance .worker "a/A" false,
    .advance .worker "a/A" false, .requestAbort]

theorem no_lost_wakeup_while_unheard :
    ∃ s, (initial Config.default true ["a/A"]).steps unheard = some s ∧ s.watch = .asleep false ∧
      s.settlement.ledger.isComplete = true ∧ s.abortRequested = true ∧
      (∃ side name attempt, s.attempt? side name = some attempt ∧ attempt.isRecorded = true) ∧
      0 < s.abortSignals := by
  have hfinal : ((initial Config.default true ["a/A"]).steps unheard).any (fun s =>
      s.watch = .asleep false ∧ s.settlement.ledger.isComplete = true ∧
        s.abortRequested = true) = true := by decide
  obtain ⟨s, hs, hfinal⟩ := (Option.any_eq_true _ _).mp hfinal
  obtain ⟨hw, hc, ha⟩ := of_decide_eq_true hfinal
  obtain ⟨hcomplete, habort, _⟩ := no_lost_wakeup _ _ _ _ s false hs hw
  obtain ⟨side, name, attempt, hself, hr, _⟩ := hcomplete rfl hc
  exact ⟨s, hs, hw, hc, ha, ⟨side, name, attempt, hself, hr⟩, (habort rfl ha).1⟩

end System

end ClassBatch.Batch
