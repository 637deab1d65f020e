import ClassBatch.Proofs.Batch.Winners

/-! What the orchestrator decides, and what it hands out: the ledger of a complete batch, on which
nobody works any more. -/

namespace ClassBatch.Batch

namespace Watch

def isDecided : Watch → Bool
  | .sweeping _ | .closing | .reporting _ | .over _ => true
  | _ => false

def isClosed : Watch → Bool
  | .reporting _ | .over _ => true
  | _ => false

def ledger? : Watch → Option Ledger
  | .reporting ledger | .over (.completed ledger) => some ledger
  | _ => none

lemma isClosed_of_ledger? {watch : Watch} {l : Ledger} (h : watch.ledger? = some l) :
    watch.isClosed = true := by
  cases watch with
  | reporting _ | «over» _ => rfl
  | _ => cases h

end Watch

namespace System

variable {s s' s₁ : System} {t t' : Task} {action : Action} {l : Ledger}

@[simp] lemma tell_phase (s : System) : s.tell.phase = s.phase := by
  rw [tell_eq]

@[simp] lemma tell_timerOpen (s : System) : s.tell.timerOpen = s.timerOpen := by
  rw [tell_eq]

@[simp] lemma tell_completions (s : System) : s.tell.completions = s.completions := by
  rw [tell_eq]

lemma tell_watch (s : System) : s.tell.watch = s.watch ∨
    ∃ told told', s.watch = .asleep told ∧ s.tell.watch = .asleep told' := by
  unfold tell
  split
  · rename_i told hw
    exact Or.inr ⟨told, true, hw, rfl⟩
  · exact Or.inl rfl

structure Unwatched (s s' : System) : Prop where
  phase : s'.phase = s.phase
  timerOpen : s'.timerOpen = s.timerOpen
  completions : s'.completions = s.completions
  watch : s'.watch = s.watch ∨ ∃ told told', s.watch = .asleep told ∧ s'.watch = .asleep told'

lemma unwatched_tell (s : System) : Unwatched s s.tell :=
  ⟨s.tell_phase, s.tell_timerOpen, s.tell_completions, s.tell_watch⟩

lemma AttemptRule.unwatched {name : String} {panics : Bool} {attempt attempt' : Attempt}
    (h : AttemptRule s name panics attempt attempt' s') : Unwatched s s' := by
  cases h with
  | tell _ => exact unwatched_tell s
  | _ => exact ⟨rfl, rfl, rfl, Or.inl rfl⟩

lemma TaskRule.unwatched (h : TaskRule s t action t' s₁) : Unwatched s (s₁.setTask t') := by
  cases h with
  | advanceWorker _ ha | advanceTimer _ ha =>
    obtain ⟨hp, ho, hc, hw⟩ := ha.unwatched
    exact ⟨hp, ho, hc, hw⟩
  | _ => exact ⟨rfl, rfl, rfl, Or.inl rfl⟩

lemma TaskRule.isExpiring (h : TaskRule s t action t' s₁) (ht : t'.isExpiring = true) :
    t.isExpiring = true ∨ s.timerOpen = true := by
  cases h with
  | fire _ ho _ => exact Or.inr ho
  | advanceTimer he _ => exact Or.inl (by rw [Task.isExpiring, he])
  | schedule _ _ => cases ht
  | cancel _ => cases ht
  | _ => exact Or.inl ht

lemma cancelUnsettled_eq (s : System) (name : String) :
    s.cancelUnsettled name = { s with tasks := (s.cancelUnsettled name).tasks } := by
  unfold cancelUnsettled
  split
  · rfl
  · split <;> rfl

@[simp] lemma cancelUnsettled_phase (s : System) (name : String) :
    (s.cancelUnsettled name).phase = s.phase := by
  rw [cancelUnsettled_eq]

@[simp] lemma cancelUnsettled_timerOpen (s : System) (name : String) :
    (s.cancelUnsettled name).timerOpen = s.timerOpen := by
  rw [cancelUnsettled_eq]

@[simp] lemma cancelUnsettled_completions (s : System) (name : String) :
    (s.cancelUnsettled name).completions = s.completions := by
  rw [cancelUnsettled_eq]

@[simp] lemma cancelUnsettled_settlement (s : System) (name : String) :
    (s.cancelUnsettled name).settlement = s.settlement := by
  rw [cancelUnsettled_eq]

structure Verdict (s : System) : Prop where
  decided : s.phase = .completed →
    s.watch.isDecided = true ∧ s.settlement.ledger.isComplete = true
  ledger : ∀ l, s.watch.ledger? = some l ∨ l ∈ s.completions →
    s.watch.isClosed = true ∧ s.phase = .completed ∧ l = s.settlement.ledger
  closed : s.watch.isClosed = true → s.timerOpen = false
  quiet : s.timerOpen = false → ∀ t ∈ s.tasks, t.isExpiring = false

namespace Verdict

lemma of_open (h : s.Verdict) (ho : s.watch.isClosed = false) (ho' : s'.watch.isClosed = false)
    (hcompletions : s'.completions = s.completions) (htimer : s'.timerOpen = s.timerOpen)
    (hexpiring : ∀ t ∈ s'.tasks, t.isExpiring = true → ∃ u ∈ s.tasks, u.isExpiring = true)
    (hdecided : s'.phase = .completed →
      s'.watch.isDecided = true ∧ s'.settlement.ledger.isComplete = true) : s'.Verdict := by
  refine ⟨hdecided, ?_, ?_, ?_⟩
  · rintro l (hl | hl)
    · rw [Watch.isClosed_of_ledger? hl] at ho'
      cases ho'
    · rw [hcompletions] at hl
      rw [(h.ledger l (Or.inr hl)).1] at ho
      cases ho
  · intro hc
    rw [hc] at ho'
    cases ho'
  · intro hclosed t ht
    rw [htimer] at hclosed
    cases he : t.isExpiring with
    | false => rfl
    | true =>
      obtain ⟨u, hu, he⟩ := hexpiring t ht he
      rw [h.quiet hclosed u hu] at he
      cases he

lemma of_unwatched (h : s.Verdict) (hu : Unwatched s s')
    (hl : s.settlement.ledger.isComplete = true → s'.settlement.ledger = s.settlement.ledger)
    (hexpiring : ∀ t ∈ s'.tasks, t.isExpiring = true →
      s.timerOpen = true ∨ ∃ u ∈ s.tasks, u.isExpiring = true) : s'.Verdict := by
  have hw : s'.watch.isDecided = s.watch.isDecided ∧ s'.watch.isClosed = s.watch.isClosed ∧
      s'.watch.ledger? = s.watch.ledger? := by
    rcases hu.watch with hw | ⟨told, told', hw, hw'⟩
    · rw [hw]
      exact ⟨rfl, rfl, rfl⟩
    · rw [hw, hw']
      exact ⟨rfl, rfl, rfl⟩
  obtain ⟨hd, hc, hledger⟩ := hw
  refine ⟨?_, ?_, ?_, ?_⟩
  · intro hp
    rw [hu.phase] at hp
    obtain ⟨hdecided, hcomplete⟩ := h.decided hp
    rw [hd, hl hcomplete]
    exact ⟨hdecided, hcomplete⟩
  · intro l hout
    rw [hledger, hu.completions] at hout
    obtain ⟨hclosed, hp, rfl⟩ := h.ledger l hout
    rw [hc, hu.phase, hl (h.decided hp).2]
    exact ⟨hclosed, hp, rfl⟩
  · intro hclosed
    rw [hu.timerOpen, h.closed (hc ▸ hclosed)]
  · intro hclosed t ht
    rw [hu.timerOpen] at hclosed
    cases he : t.isExpiring with
    | false => rfl
    | true =>
      rcases hexpiring t ht he with ho | ⟨u, hu, he⟩
      · rw [hclosed] at ho
        cases ho
      · rw [h.quiet hclosed u hu] at he
        cases he

lemma handed (h : s.Verdict) (hw : s.watch = .reporting l) :
    s.phase = .completed ∧ l = s.settlement.ledger ∧ s.timerOpen = false :=
  have hout := h.ledger l (Or.inl (by rw [hw]; rfl))
  ⟨hout.2.1, hout.2.2, h.closed hout.1⟩

lemma finish {ending : Ending} (h : s.Verdict) (hw : s.watch = .reporting l)
    (hending : ∀ l', (Watch.over ending).ledger? = some l' → l' = l) :
    { s with completions := s.completions ++ [l], watch := .over ending }.Verdict := by
  obtain ⟨hp, rfl, hclosed⟩ := h.handed hw
  refine ⟨fun _ => ⟨rfl, (h.decided hp).2⟩, ?_, fun _ => hclosed, h.quiet⟩
  rintro l (hl | hl)
  · exact ⟨rfl, hp, hending l hl⟩
  · rcases List.mem_append.mp hl with hl | hl
    · exact ⟨rfl, hp, (h.ledger l (Or.inr hl)).2.2⟩
    · exact ⟨rfl, hp, List.mem_singleton.mp hl⟩

lemma close {watch : Watch} (h : s.Verdict) (hw : s.watch = .closing)
    (hi : s.tasks.any Task.isExpiring = false) (hd : watch.isDecided = true)
    (hl : ∀ l, watch.ledger? = some l →
      watch.isClosed = true ∧ s.phase = .completed ∧ l = s.settlement.ledger) :
    { s with timerOpen := false, watch }.Verdict := by
  refine ⟨fun hp => ⟨hd, (h.decided hp).2⟩, ?_, fun _ => rfl, ?_⟩
  · rintro l (hout | hout)
    · exact hl l hout
    · have hclosed := (h.ledger l (Or.inr hout)).1
      rw [hw] at hclosed
      cases hclosed
  · intro _ t ht
    exact Bool.eq_false_iff.mpr (List.any_eq_false.mp hi t ht)

lemma watchRule (h : s.Verdict) (hr : WatchRule s action s') : s'.Verdict := by
  have expiring (t : Task) (ht : t ∈ s'.tasks) (he : t.isExpiring = true) :
      ∃ u ∈ s.tasks, u.isExpiring = true := by
    obtain ⟨u, hu, cancelled, rfl⟩ := hr.mem_tasks ht
    exact ⟨u, hu, he⟩
  -- A phase that is completed was decided, so that the orchestrator is past its tests.
  have before {watch : Watch} (hw : s.watch = watch) (hd : watch.isDecided = false)
      (hp : s.phase = .completed) : False := by
    have hdecided := (h.decided hp).1
    rw [hw, hd] at hdecided
    cases hdecided
  cases hr with
  | launch hw _ => exact h.of_open (hw ▸ rfl) rfl rfl rfl expiring nofun
  | requestAbort _ =>
    exact h.of_unwatched ⟨rfl, rfl, rfl, Or.inl rfl⟩ (fun _ => rfl) fun t ht he =>
      Or.inr (expiring t ht he)
  | signalAbort _ _ =>
    obtain ⟨hp, ho, hc, hw⟩ := unwatched_tell s
    refine h.of_unwatched ⟨hp, ho, hc, hw⟩ ?_ fun t ht he => Or.inr (expiring t ht he)
    intro _
    exact congrArg Settlement.ledger s.tell_settlement
  | lock hw => exact h.of_open (hw ▸ rfl) rfl rfl rfl expiring fun hp => (before hw rfl hp).elim
  | heedAbort hw _ => exact h.of_open (hw ▸ rfl) rfl rfl rfl expiring nofun
  | findUnaborted hw _ =>
    exact h.of_open (hw ▸ rfl) rfl rfl rfl expiring fun hp => (before hw rfl hp).elim
  | findComplete hw hc => exact h.of_open (hw ▸ rfl) rfl rfl rfl expiring fun _ => ⟨rfl, hc⟩
  | findIncomplete hw _ =>
    exact h.of_open (hw ▸ rfl) rfl rfl rfl expiring fun hp => (before hw rfl hp).elim
  | giveUp hw => exact h.of_open (hw ▸ rfl) rfl rfl rfl expiring nofun
  | sleep hw => exact h.of_open (hw ▸ rfl) rfl rfl rfl expiring fun hp => (before hw rfl hp).elim
  | wake hw => exact h.of_open (hw ▸ rfl) rfl rfl rfl expiring fun hp => (before hw rfl hp).elim
  | stir hw => exact h.of_open (hw ▸ rfl) rfl rfl rfl expiring fun hp => (before hw rfl hp).elim
  | sweepNext name names hw =>
    refine h.of_open (hw ▸ rfl) rfl (s.cancelUnsettled_completions name)
      (s.cancelUnsettled_timerOpen name) expiring ?_
    simp only [cancelUnsettled_phase, cancelUnsettled_settlement]
    exact fun hp => ⟨rfl, (h.decided hp).2⟩
  | sweepEnd hw => exact h.of_open (hw ▸ rfl) rfl rfl rfl expiring fun hp => ⟨rfl, (h.decided hp).2⟩
  | closeCompleted hw hi hp =>
    exact h.close hw hi rfl fun l hl => ⟨rfl, hp, (Option.some.inj hl).symm⟩
  | closeAborted hw hi hp => exact h.close hw hi rfl nofun
  | complete l hw => exact h.finish hw fun l' hl => (Option.some.inj hl).symm
  | completePanicked l hw => exact h.finish hw nofun

lemma step (h : s.Verdict) (ha : s.Agreement) (hs : (s.tasks.map Task.name).Nodup)
    (hstep : s.step action = some s') : s'.Verdict := by
  have hl (hc : s.settlement.ledger.isComplete = true) := ledger_final ha hs hc hstep
  rcases rule_of_step hstep with ⟨t, ht, t', s₁, hr, rfl⟩ | hr
  · refine h.of_unwatched hr.unwatched hl ?_
    intro u hu he
    rcases mem_setTask hu with rfl | hu
    · exact (hr.isExpiring he).symm.imp_right fun he => ⟨t, ht, he⟩
    · exact Or.inr ⟨u, hr.tasks ▸ hu, he⟩
  · exact h.watchRule hr

lemma initial (config : Config) (fresh : Bool) (names : List String) :
    (System.initial config fresh names).Verdict := by
  refine ⟨nofun, ?_, nofun, nofun⟩
  rintro l (hl | hl) <;> cases hl

end Verdict

section Reachable

variable {config : Config} {fresh : Bool} {names : List String} {actions : List Action}

lemma Run.verdict (h : Run (System.initial config fresh names) actions s) : s.Verdict := by
  induction h with
  | nil => exact Verdict.initial config fresh names
  | concat hrun hstep ih => exact ih.step hrun.sound.agreement hrun.sound.nodup hstep

lemma Run.complete_of_handed (h : Run (System.initial config fresh names) actions s)
    (hout : s.watch.ledger? = some l ∨ l ∈ s.completions) :
    l.FilledBy (Names.sorted names).length
        (System.entries (System.initial config fresh names) actions) ∧
      Names.keys l.results = Names.sorted names := by
  have hsound := h.sound
  have hverdict := h.verdict
  obtain ⟨-, hphase, rfl⟩ := hverdict.ledger l hout
  refine ⟨?_, hsound.keys_of_isComplete (hverdict.decided hphase).2⟩
  rw [← hsound.names, List.length_map]
  exact h.history.ledger

lemma Verdict.no_timer (h : s.Verdict) (hw : s.watch.ledger? = some l) (name : String) :
    s.attempt? .timer name = none := by
  cases ha : s.attempt? .timer name with
  | none => rfl
  | some attempt =>
    obtain ⟨t, ht, _, ha⟩ := exists_task_of_attempt? ha
    have hidle := h.quiet (h.closed (h.ledger l (Or.inl hw)).1) t ht
    rw [Task.isExpiring, Expiry.settling_of_attempt? ha] at hidle
    cases hidle

def reportsOwed (s : System) : Nat :=
  s.tasks.countP fun t => (t.attempt? .worker).any Attempt.owesReport

/-- When the ledger is handed out, every report has returned but for the one that a worker may still
owe. -/
theorem reports_at_completion (config : Config) (fresh : Bool) (names : List String)
    (actions : List Action) (s : System) (l : Ledger)
    (h : (initial config fresh names).steps actions = some s)
    (hw : s.watch = .reporting l ∨ s.watch = .over (.completed l)) :
    l = s.settlement.ledger ∧ l.total = (Names.sorted names).length ∧
    s.returned + s.reportsOwed = l.total ∧ s.reportsOwed ≤ 1 ∧
    (s.returned = l.total ↔
      ∀ name attempt, s.attempt? .worker name = some attempt → attempt.owesReport = false) ∧
    (s.reports.length = l.total ↔
      ∀ name attempt, s.attempt? .worker name = some attempt → attempt.isEntered = false) := by
  have hrun := run_of_steps h
  have hsound := hrun.sound
  have hdelivery := hsound.delivery
  have hverdict := hrun.verdict
  have hout : s.watch.ledger? = some l := by
    rcases hw with hw | hw <;> rw [hw] <;> rfl
  obtain ⟨-, hphase, rfl⟩ := hverdict.ledger l (Or.inl hout)
  have htimer := hverdict.no_timer hout
  have hfull := Ledger.isComplete_iff.mp (hverdict.decided hphase).2
  have hreturned := hdelivery.returned
  have hbegun := hdelivery.begun
  have howed : s.tally Attempt.owesReport = s.reportsOwed := by
    have hnone : s.tasks.countP (fun t => (t.attempt? .timer).any Attempt.owesReport) = 0 := by
      rw [List.countP_eq_zero]
      intro t ht
      rw [← attempt?_of_mem hsound.nodup ht, htimer]
      exact Bool.false_ne_true
    rw [tally, hnone, Nat.add_zero, reportsOwed]
  have workers {p : Attempt → Bool} : s.tally p = 0 ↔
      ∀ name attempt, s.attempt? .worker name = some attempt → p attempt = false := by
    rw [tally_eq_zero_iff hsound.nodup]
    refine ⟨fun h => h .worker, ?_⟩
    intro h side name attempt ha
    cases side with
    | worker => exact h name attempt ha
    | timer =>
      rw [htimer] at ha
      cases ha
  refine ⟨rfl, ?_, ?_, ?_, ?_, ?_⟩
  · rw [hsound.agreement.total, ← hsound.names, List.length_map]
  · omega
  · exact howed ▸ hdelivery.owed_le
  · rw [← workers]
    omega
  · rw [← workers]
    omega

end Reachable

def lastEntry : List Action :=
  [.submit "a/A", .schedule "a/A", .take "a/A", .check "a/A", .equip "a/A" .made, .call "a/A",
    .reply "a/A" (.source "class A {}"), .time "a/A" (Duration.ofSeconds 1),
    .advance .worker "a/A" false, .advance .worker "a/A" false, .advance .worker "a/A" false]

def completion : List Action :=
  [.launch, .lock, .testAbort, .testComplete, .sweep, .sweep, .close, .complete false]

def lastReport : List Action :=
  [.advance .worker "a/A" false, .advance .worker "a/A" false, .advance .worker "a/A" false]

theorem reports_at_completion_in_order :
    ∃ s l, (initial Config.default false ["a/A"]).steps (lastEntry ++ lastReport ++ completion) =
        some s ∧ s.watch = .over (.completed l) ∧ s.reportsOwed = 0 ∧ s.returned = l.total := by
  obtain ⟨s, hs⟩ : ∃ s, (initial Config.default false ["a/A"]).steps
      (lastEntry ++ lastReport ++ completion) = some s :=
    Option.isSome_iff_exists.mp (by decide)
  have hfinal : ((initial Config.default false ["a/A"]).steps
      (lastEntry ++ lastReport ++ completion)).any
        (fun s => s.watch = .over (.completed s.settlement.ledger) ∧ s.reportsOwed = 0) = true := by
    decide
  rw [hs, Option.any_some, decide_eq_true_eq] at hfinal
  obtain ⟨hw, howed⟩ := hfinal
  obtain ⟨_, _, hall, _⟩ := reports_at_completion _ _ _ _ s _ hs (Or.inr hw)
  exact ⟨s, _, hs, hw, howed, by omega⟩

/-- A batch may be over while the report on its last class has not even begun. -/
theorem completion_before_last_report :
    ((initial Config.default false ["a/A"]).steps (lastEntry ++ completion)).any (fun s =>
      s.watch = .over (.completed s.settlement.ledger) ∧ s.settlement.ledger.total = 1 ∧
        s.completions = [s.settlement.ledger] ∧ s.reports = [] ∧ s.returned = 0) = true := by
  decide

end System

end ClassBatch.Batch
