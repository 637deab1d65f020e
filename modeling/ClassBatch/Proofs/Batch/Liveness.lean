import ClassBatch.Proofs.Batch.Phases

/-! A batch can always come to its end. Until every task is settled and the timer rests, some step
of a task is possible that leaves less to do; the orchestrator then finds its own way out. -/

namespace ClassBatch.Batch

def Attempt.rank : Attempt → Nat
  | .ready _ _ => 7
  | .holding _ _ => 6
  | .won _ _ => 5
  | .entered _ => 4
  | .reporting => 3
  | .reported => 2
  | .telling => 1
  | .over _ => 0

def Work.rank : Work → Nat
  | .unsubmitted => 1
  | .settling attempt => attempt.rank
  | _ => 0

def Expiry.rank : Expiry → Nat
  | .unscheduled => 11
  | .scheduled => 10
  | .settling attempt => attempt.rank + 2
  | .cancelling => 1
  | .over => 0

namespace Task

def rank (t : Task) : Nat :=
  t.work.rank + t.expiry.rank

lemma rank_resume {t : Task} {side : Side} {attempt attempt' : Attempt}
    (ha : t.attempt? side = some attempt) (hr : attempt'.rank < attempt.rank) :
    (t.resume side attempt').rank < t.rank := by
  cases side with
  | worker =>
    have hw : t.work.rank = attempt.rank := by rw [Work.settling_of_attempt? ha, Work.rank]
    change attempt'.rank + t.expiry.rank < t.work.rank + t.expiry.rank
    omega
  | timer =>
    have he : t.expiry.rank = attempt.rank + 2 := by
      rw [Expiry.settling_of_attempt? ha, Expiry.rank]
    have hle : (t.resume .timer attempt').rank ≤ t.work.rank + (attempt'.rank + 2) := by
      cases attempt' with
      | «over» settled =>
        cases settled <;> simp only [resume, rank, Expiry.rank, Attempt.rank] <;> omega
      | _ => exact le_refl _
    change (t.resume .timer attempt').rank < t.work.rank + t.expiry.rank
    omega

end Task

namespace System

variable {s s' s₁ start : System} {t t' : Task} {side : Side} {attempt attempt' : Attempt}
  {action : Action} {actions : List Action} {name : String} {config : Config} {fresh : Bool}
  {names : List String}

def rank (s : System) : Nat :=
  s.tasks.foldr (fun t n => t.rank + n) 0

lemma rank_setTask (hs : (s.tasks.map Task.name).Nodup) (ht : t ∈ s.tasks)
    (hn : t'.name = t.name) (hr : t'.rank < t.rank) : (s.setTask t').rank < s.rank := by
  have hsum := foldr_setTask hs ht hn Task.rank
  unfold rank
  omega

lemma unwatched_of_step (hn : action.name? = some name) (h : s.step action = some s') :
    Unwatched s s' ∧ s'.abortRequested = s.abortRequested := by
  rw [step_eq_bind hn] at h
  obtain ⟨t, ht, hstep⟩ := Option.bind_eq_some_iff.mp h
  obtain ⟨-, rfl⟩ := task?_eq_some ht
  obtain ⟨t', s₁, hr, rfl⟩ := taskRule_of_stepTask hn hstep
  exact ⟨hr.unwatched, hr.abortRequested⟩

section Possible

variable (hs : (s.tasks.map Task.name).Nodup) (ht : t ∈ s.tasks)

include hs ht

lemma step_of_stepTask (hn : action.name? = some t.name) :
    s.step action = s.stepTask t action := by
  rw [step_eq_bind hn, (task?_eq_some_iff hs).mpr ⟨ht, rfl⟩, Option.bind_some]

lemma step_advance {panics : Bool} (ha : t.attempt? side = some attempt)
    (h : s.advance t.name panics attempt = some (attempt', s₁)) :
    s.step (.advance side t.name panics) = some (s₁.setTask (t.resume side attempt')) := by
  rw [step_of_stepTask hs ht rfl]
  cases side with
  | worker =>
    rw [stepTask, Work.settling_of_attempt? ha]
    simp only [h]
    rfl
  | timer =>
    rw [stepTask, Expiry.settling_of_attempt? ha]
    simp only [h]
    cases attempt' with
    | «over» settled => cases settled <;> rfl
    | _ => rfl

end Possible

lemma AttemptRule.rank_lt {panics : Bool} (h : AttemptRule s name panics attempt attempt' s') :
    attempt'.rank < attempt.rank := by
  cases h <;> simp [Attempt.rank]

lemma exists_advance (name : String) (hready : ∀ outcome duration,
    attempt = .ready outcome duration → s.delivering = false)
    (htelling : attempt = .telling → s.phaseLocked = false) (ho : attempt.isOver = false) :
    ∃ attempt' s₁, s.advance name false attempt = some (attempt', s₁) := by
  cases attempt with
  | ready outcome duration =>
    rw [advance, hready outcome duration rfl]
    exact ⟨_, _, rfl⟩
  | holding outcome duration =>
    rw [advance]
    cases s.settlement.trySettle name with
    | mk raised settlement => cases raised <;> exact ⟨_, _, rfl⟩
  | won outcome duration =>
    rw [advance]
    cases s.settlement.record name outcome duration with
    | mk progress? settlement => cases progress? <;> exact ⟨_, _, rfl⟩
  | entered progress => exact ⟨_, _, rfl⟩
  | reporting => exact ⟨_, _, rfl⟩
  | reported => exact ⟨_, _, rfl⟩
  | telling =>
    rw [advance, htelling rfl]
    exact ⟨_, _, rfl⟩
  | «over» settled => cases ho

def HasStep (s : System) : Prop :=
  ∃ action name s', action.name? = some name ∧ s.step action = some s' ∧ s'.rank < s.rank

section HasStep

variable (hs : (s.tasks.map Task.name).Nodup) (ht : t ∈ s.tasks)

include hs ht

lemma hasStep_of_attempt? (ha : t.attempt? side = some attempt)
    (hready : ∀ outcome duration, attempt = .ready outcome duration → s.delivering = false)
    (htelling : attempt = .telling → s.phaseLocked = false) (ho : attempt.isOver = false) :
    s.HasStep := by
  obtain ⟨attempt', s₁, hadvance⟩ := exists_advance t.name hready htelling ho
  have hr := attemptRule_of_advance hadvance
  have htasks := hr.tasks
  refine ⟨_, t.name, _, rfl, step_advance hs ht ha hadvance, ?_⟩
  have hlt := rank_setTask (s := s₁) (htasks ▸ hs) (htasks ▸ ht) (t.resume_name side attempt')
    (Task.rank_resume ha hr.rank_lt)
  unfold rank at hlt ⊢
  rwa [htasks] at hlt

lemma hasStep_of_setTask (action : Action) (hn : action.name? = some t.name)
    (hstep : s.stepTask t action = some (s.setTask t')) (hname : t'.name = t.name)
    (hr : t'.rank < t.rank) : s.HasStep :=
  ⟨action, t.name, _, hn, (step_of_stepTask hs ht hn).trans hstep, rank_setTask hs ht hname hr⟩

lemma hasStep_of_cancelling (he : t.expiry = .cancelling) : s.HasStep := by
  refine hasStep_of_setTask hs ht (.cancel t.name) rfl (if_pos he) rfl ?_
  simp only [Task.rank, he, Expiry.rank]
  omega

lemma hasStep_of_scheduled (he : t.expiry = .scheduled) (ho : s.timerOpen = true)
    (hi : ∀ u ∈ s.tasks, u.isExpiring = false) : s.HasStep := by
  have hidle : s.tasks.any Task.isExpiring = false :=
    List.any_eq_false.mpr fun u hu => Bool.eq_false_iff.mp (hi u hu)
  refine hasStep_of_setTask hs ht (.fire t.name) rfl (if_pos ?_) rfl ?_
  · rw [he, ho, hidle]
    rfl
  · simp only [Task.rank, he, Expiry.rank, Attempt.rank]
    omega

end HasStep

lemma hasStep_of_delivering (h : s.Sound names) (hd : s.delivering = true) : s.HasStep := by
  have hne : s.tally Attempt.holdsLock ≠ 0 := by
    rw [h.delivery.lock, hd]
    decide
  rw [Ne, tally_eq_zero_iff h.nodup] at hne
  push Not at hne
  obtain ⟨side, name, attempt, hself, hlock⟩ := hne
  obtain ⟨t, ht, rfl, ha⟩ := exists_task_of_attempt? hself
  apply hasStep_of_attempt? h.nodup ht ha
  · rintro outcome duration rfl
    cases hlock rfl
  · rintro rfl
    cases hlock rfl
  · cases attempt with
    | «over» settled => cases hlock rfl
    | _ => rfl

lemma hasStep_of_expiring (h : s.Sound names) (hstaged : s.Staged) (hd : s.delivering = false)
    (hl : s.phaseLocked = false) (ht : t ∈ s.tasks) (he : t.isExpiring = true) : s.HasStep := by
  cases hx : t.expiry with
  | settling attempt =>
    have ha : t.attempt? .timer = some attempt := by rw [Task.attempt?, hx, Expiry.attempt?]
    apply hasStep_of_attempt? h.nodup ht ha (fun _ _ _ => hd) (fun _ => hl)
    cases attempt with
    | «over» settled => exact absurd hx (hstaged.forgotten t ht settled)
    | _ => rfl
  | cancelling => exact hasStep_of_cancelling h.nodup ht hx
  | unscheduled | scheduled | «over» =>
    rw [Task.isExpiring, hx] at he
    cases he

lemma hasStep_of_unscheduled (hs : (s.tasks.map Task.name).Nodup)
    (h : ∃ t ∈ s.tasks, t.expiry = .unscheduled) : s.HasStep := by
  obtain ⟨u, hu, hx⟩ := h
  obtain ⟨t, hf⟩ : ∃ t, (s.tasks.find? fun t => t.expiry = .unscheduled) = some t :=
    Option.isSome_iff_exists.mp (List.find?_isSome.mpr ⟨u, hu, decide_eq_true hx⟩)
  have ht := List.mem_of_find?_eq_some hf
  have hx : t.expiry = .unscheduled := by simpa using List.find?_some hf
  by_cases hw : t.work = .unsubmitted
  · have hnext : s.isNext t = true := by
      rw [isNext, hf]
      exact decide_eq_true rfl
    refine hasStep_of_setTask hs ht (.submit t.name) rfl (if_pos ?_) rfl ?_
    · rw [hw, hnext]
      rfl
    · simp only [Task.rank, hw, Work.rank]
      omega
  · refine hasStep_of_setTask hs ht (.schedule t.name) rfl (if_pos ?_) rfl ?_
    · rw [hx, decide_eq_true hw]
      rfl
    · simp only [Task.rank, hx, Expiry.rank]
      omega

lemma hasStep_of_unsettled (h : s.Sound names) (hstaged : s.Staged) (hw : s.watch ≠ .absent)
    (hopen : s.timerOpen = true) (hi : ∀ t ∈ s.tasks, t.isExpiring = false)
    (hc : s.settlement.ledger.isComplete = false) : s.HasStep := by
  obtain ⟨t, ht, hk⟩ : ∃ t ∈ s.tasks, t.name ∉ Names.keys s.settlement.ledger.results := by
    by_contra hall
    push Not at hall
    have hkeys : Names.keys s.settlement.ledger.results = Names.sorted names := by
      apply h.agreement.ordered.eq_of_mem_iff (Names.sorted_ordered names)
      refine fun name => ⟨fun hk => h.keys_subset hk, ?_⟩
      rw [← h.names, List.mem_map]
      rintro ⟨t, ht, rfl⟩
      exact hall t ht
    rw [h.isComplete_of_keys hkeys] at hc
    cases hc
  cases hx : t.expiry with
  | scheduled => exact hasStep_of_scheduled h.nodup ht hx hopen hi
  | unscheduled => exact absurd hx (hstaged.scheduled hw t ht)
  | settling attempt =>
    have hidle := hi t ht
    rw [Task.isExpiring, hx] at hidle
    cases hidle
  | cancelling =>
    have hidle := hi t ht
    rw [Task.isExpiring, hx] at hidle
    cases hidle
  | «over» =>
    -- The timer is done with a task only when the task is settled.
    refine absurd (h.agreement.ended .timer t.name ?_) hk
    rw [hasEnded, (task?_eq_some_iff h.nodup).mpr ⟨ht, rfl⟩, Option.any_some, Task.hasEnded, hx]
    rfl

structure Rested (s : System) : Prop where
  scheduled : ∀ t ∈ s.tasks, t.expiry ≠ .unscheduled
  idle : s.watch ≠ .absent → ∀ t ∈ s.tasks, t.isExpiring = false
  settled : s.watch = .absent ∨ s.watch.isDecided = true ∨
    s.settlement.ledger.isComplete = true

lemma hasStep_or_rested (h : s.Sound names) (hstaged : s.Staged) (hl : s.phaseLocked = false) :
    s.HasStep ∨ s.Rested := by
  by_cases hx : ∃ t ∈ s.tasks, t.expiry = .unscheduled
  · exact Or.inl (hasStep_of_unscheduled h.nodup hx)
  push Not at hx
  by_cases hw : s.watch = .absent
  · exact Or.inr ⟨hx, fun hne => absurd hw hne, Or.inl hw⟩
  cases hd : s.delivering with
  | true => exact Or.inl (hasStep_of_delivering h hd)
  | false =>
    by_cases hi : ∃ t ∈ s.tasks, t.isExpiring = true
    · obtain ⟨t, ht, he⟩ := hi
      exact Or.inl (hasStep_of_expiring h hstaged hd hl ht he)
    · push Not at hi
      have hi (t : Task) (ht : t ∈ s.tasks) : t.isExpiring = false :=
        Bool.eq_false_iff.mpr (hi t ht)
      by_cases hsettled : s.watch.isDecided = true ∨ s.settlement.ledger.isComplete = true
      · exact Or.inr ⟨hx, fun _ => hi, Or.inr hsettled⟩
      · push Not at hsettled
        obtain ⟨hdecided, hc⟩ := hsettled
        have hopen : s.timerOpen = true := by
          by_contra hclosed
          have hclosed := hstaged.timer (Bool.eq_false_iff.mpr hclosed)
          cases hw : s.watch with
          | reporting _ | «over» _ => exact hdecided (by rw [hw]; rfl)
          | _ =>
            rw [hw] at hclosed
            cases hclosed
        exact Or.inl (hasStep_of_unsettled h hstaged hw hopen hi (Bool.eq_false_iff.mpr hc))

structure Onward (s s' : System) : Prop where
  steps : ∃ later, s.steps later = some s'
  requested : s'.abortRequested = s.abortRequested
  phase : s.abortRequested = false → s'.phase = .aborted → s.phase = .aborted

namespace Onward

lemma refl (s : System) : Onward s s :=
  ⟨⟨[], rfl⟩, rfl, fun _ hp => hp⟩

lemma trans {s s' s'' : System} (h : Onward s s') (h' : Onward s' s'') : Onward s s'' := by
  obtain ⟨later, hl⟩ := h.steps
  obtain ⟨later', hl'⟩ := h'.steps
  refine ⟨⟨later ++ later', by rw [steps_append, hl, Option.bind_some, hl']⟩,
    h'.requested.trans h.requested, ?_⟩
  intro hr hp
  exact h.phase hr (h'.phase (h.requested.trans hr) hp)

lemma of_step (action : Action) (hstep : s.step action = some s')
    (hr : s'.abortRequested = s.abortRequested)
    (hp : s.abortRequested = false → s'.phase = .aborted → s.phase = .aborted) : Onward s s' := by
  refine ⟨⟨[action], ?_⟩, hr, hp⟩
  rw [steps_cons, hstep]
  rfl

lemma run (h : Onward s s') (hrun : Run start actions s) : ∃ later, Run start later s' := by
  obtain ⟨later, hl⟩ := h.steps
  exact ⟨actions ++ later, hrun.append hl⟩

end Onward

section Orchestrator

lemma onward_setWatch {watch : Watch} (action : Action)
    (hstep : s.step action = some { s with watch }) :
    Onward s { s with watch } :=
  .of_step action hstep rfl fun _ hp => hp

lemma exists_over_of_closing (hw : s.watch = .closing)
    (hi : ∀ t ∈ s.tasks, t.isExpiring = false) :
    ∃ s' ending, Onward s s' ∧ s'.watch = .over ending := by
  have hidle : s.tasks.any Task.isExpiring = false :=
    List.any_eq_false.mpr fun t ht => Bool.eq_false_iff.mp (hi t ht)
  have hclose : s.close = some { s with
      timerOpen := false
      watch := if s.phase = .completed then .reporting s.settlement.ledger else .over .aborted } := by
    rw [close, hw, hidle]
    rfl
  have honward := Onward.of_step .close hclose rfl fun _ hp => hp
  by_cases hp : s.phase = .completed
  · rw [if_pos hp] at honward
    have hcomplete := Onward.of_step (s := { s with
      timerOpen := false, watch := .reporting s.settlement.ledger })
      (.complete false) rfl rfl fun _ hp => hp
    exact ⟨_, _, honward.trans hcomplete, rfl⟩
  · rw [if_neg hp] at honward
    exact ⟨_, _, honward, rfl⟩

lemma exists_over_of_sweeping {unswept : List String} (hw : s.watch = .sweeping unswept)
    (hi : ∀ t ∈ s.tasks, t.isExpiring = false) :
    ∃ s' ending, Onward s s' ∧ s'.watch = .over ending := by
  induction unswept generalizing s with
  | nil =>
    have hsweep : s.step .sweep = some { s with watch := .closing } := by
      rw [step, sweep, hw]
    obtain ⟨s', ending, h, hover⟩ :=
      exists_over_of_closing (s := { s with watch := .closing }) rfl hi
    exact ⟨s', ending, (onward_setWatch _ hsweep).trans h, hover⟩
  | cons name unswept ih =>
    have hsweep : s.step .sweep =
        some { s.cancelUnsettled name with watch := .sweeping unswept } := by
      rw [step, sweep, hw]
    have honward : Onward s { s.cancelUnsettled name with watch := .sweeping unswept } :=
      .of_step _ hsweep (s.cancelUnsettled_abortRequested name) fun _ hp =>
        s.cancelUnsettled_phase name ▸ hp
    obtain ⟨s', ending, h, hover⟩ :=
      ih (s := { s.cancelUnsettled name with watch := .sweeping unswept }) rfl fun t ht => by
        obtain ⟨u, hu, cancelled, rfl⟩ := mem_cancelUnsettled ht
        exact hi u hu
    exact ⟨s', ending, honward.trans h, hover⟩

lemma exists_over (hd : s.watch.isDecided = true) (hi : ∀ t ∈ s.tasks, t.isExpiring = false) :
    ∃ s' ending, Onward s s' ∧ s'.watch = .over ending := by
  cases hw : s.watch with
  | sweeping unswept => exact exists_over_of_sweeping hw hi
  | closing => exact exists_over_of_closing hw hi
  | reporting l =>
    have hcomplete : s.step (.complete false) = some { s with
        completions := s.completions ++ [l], watch := .over (.completed l) } := by
      rw [step, hw]
      rfl
    exact ⟨_, _, .of_step _ hcomplete rfl fun _ hp => hp, rfl⟩
  | «over» ending => exact ⟨s, ending, .refl s, hw⟩
  | _ =>
    rw [hw] at hd
    cases hd

lemma exists_decided_of_unaborted (hw : s.watch = .unaborted)
    (hc : s.settlement.ledger.isComplete = true) :
    ∃ s', Onward s s' ∧ s'.watch.isDecided = true ∧ s'.tasks = s.tasks := by
  have hdecide : s.step .testComplete = some (s.decide .completed) := by
    rw [step, if_neg (not_not_intro hw), if_pos hc]
  exact ⟨_, .of_step _ hdecide rfl fun _ hp => (by cases hp), rfl, rfl⟩

lemma exists_decided_of_outside (hw : s.watch = .outside)
    (hc : s.settlement.ledger.isComplete = true) :
    ∃ s', Onward s s' ∧ s'.watch.isDecided = true ∧ s'.tasks = s.tasks := by
  have hlock : Onward s { s with watch := .locked } :=
    onward_setWatch .lock (if_pos hw)
  cases ha : s.abortRequested with
  | true =>
    have hdecide : Onward { s with watch := .locked } (s.decide .aborted) :=
      .of_step .testAbort (if_pos ha) rfl fun hf => by
        rw [ha] at hf
        cases hf
    exact ⟨_, hlock.trans hdecide, rfl, rfl⟩
  | false =>
    have htest : Onward { s with watch := .locked } { s with watch := .unaborted } :=
      .of_step .testAbort (if_neg (Bool.eq_false_iff.mp ha)) rfl fun _ hp => hp
    obtain ⟨s', h, hs'⟩ :=
      exists_decided_of_unaborted (s := { s with watch := .unaborted }) rfl hc
    exact ⟨s', (hlock.trans htest).trans h, hs'⟩

lemma exists_decided (hw : s.watch ≠ .absent) (hl : s.phaseLocked = false)
    (hc : s.settlement.ledger.isComplete = true) :
    ∃ s', Onward s s' ∧ s'.watch.isDecided = true ∧ s'.tasks = s.tasks := by
  have awake (h : Onward s { s with watch := .outside }) :
      ∃ s', Onward s s' ∧ s'.watch.isDecided = true ∧ s'.tasks = s.tasks := by
    obtain ⟨s', h', hs'⟩ := exists_decided_of_outside (s := { s with watch := .outside }) rfl hc
    exact ⟨s', h.trans h', hs'⟩
  cases hx : s.watch with
  | absent => exact absurd hx hw
  | «outside» => exact exists_decided_of_outside hx hc
  | asleep told =>
    cases told with
    | true => exact awake (onward_setWatch .wake (if_pos hx))
    | false => exact awake (onward_setWatch .stir (if_pos hx))
  | locked | unaborted | incomplete =>
    rw [phaseLocked, hx] at hl
    cases hl
  | sweeping _ | closing | reporting _ | «over» _ => exact ⟨s, .refl s, by rw [hx]; rfl, rfl⟩

lemma exists_unlocked_of_unaborted (hw : s.watch = .unaborted) :
    ∃ s', Onward s s' ∧ s'.phaseLocked = false := by
  cases hc : s.settlement.ledger.isComplete with
  | true =>
    have hdecide : s.step .testComplete = some (s.decide .completed) := by
      rw [step, if_neg (not_not_intro hw), if_pos hc]
    exact ⟨_, .of_step _ hdecide rfl fun _ hp => (by cases hp), rfl⟩
  | false =>
    have htest : s.step .testComplete = some { s with watch := .incomplete } := by
      rw [step, if_neg (not_not_intro hw), if_neg (Bool.eq_false_iff.mp hc)]
    have hsleep : Onward { s with watch := .incomplete } { s with watch := .asleep false } :=
      .of_step .sleep rfl rfl fun _ hp => hp
    exact ⟨_, (onward_setWatch _ htest).trans hsleep, rfl⟩

lemma exists_unlocked (s : System) : ∃ s', Onward s s' ∧ s'.phaseLocked = false := by
  cases hw : s.watch with
  | locked =>
    cases ha : s.abortRequested with
    | true =>
      have hdecide : s.step .testAbort = some (s.decide .aborted) := by
        rw [step, if_neg (not_not_intro hw), if_pos ha]
      refine ⟨_, .of_step _ hdecide rfl fun hf => ?_, rfl⟩
      rw [ha] at hf
      cases hf
    | false =>
      have htest : s.step .testAbort = some { s with watch := .unaborted } := by
        rw [step, if_neg (not_not_intro hw), if_neg (Bool.eq_false_iff.mp ha)]
      obtain ⟨s', h, hl⟩ := exists_unlocked_of_unaborted (s := { s with watch := .unaborted }) rfl
      exact ⟨s', (onward_setWatch _ htest).trans h, hl⟩
  | unaborted => exact exists_unlocked_of_unaborted hw
  | incomplete => exact ⟨_, onward_setWatch .sleep (if_pos hw), rfl⟩
  | _ => exact ⟨s, .refl s, by rw [phaseLocked, hw]⟩

end Orchestrator

lemma exists_rested (hrun : Run (initial config fresh names) actions s)
    (hl : s.phaseLocked = false) :
    ∃ s', Onward s s' ∧ s'.phaseLocked = false ∧ (s'.watch = .absent ↔ s.watch = .absent) ∧
      s'.Rested := by
  induction hn : s.rank using Nat.strongRecOn generalizing s actions with
  | ind n ih =>
    rcases hasStep_or_rested hrun.sound hrun.staged hl with hstep | hrested
    · obtain ⟨action, name, s₁, hname, hstep, hlt⟩ := hstep
      obtain ⟨hu, ha⟩ := unwatched_of_step hname hstep
      have honward : Onward s s₁ := .of_step _ hstep ha fun _ hp => hu.phase ▸ hp
      obtain ⟨s', h, hl', hw, hr⟩ :=
        ih s₁.rank (hn ▸ hlt) (.concat hrun hstep) (hu.phaseLocked_eq.trans hl) rfl
      exact ⟨s', honward.trans h, hl', hw.trans hu.absent_iff, hr⟩
    · exact ⟨s, .refl s, hl, Iff.rfl, hrested⟩

lemma exists_over_of_launched (hrun : Run (initial config fresh names) actions s)
    (hl : s.phaseLocked = false) (hw : s.watch ≠ .absent) :
    ∃ s' ending, Onward s s' ∧ s'.watch = .over ending := by
  obtain ⟨s₁, h₁, hl₁, hw₁, hrested⟩ := exists_rested hrun hl
  have hlaunched : s₁.watch ≠ .absent := fun ha => hw (hw₁.mp ha)
  have hidle := hrested.idle hlaunched
  rcases hrested.settled with ha | hd | hc
  · exact absurd ha hlaunched
  · obtain ⟨s', ending, h, hover⟩ := exists_over hd hidle
    exact ⟨s', ending, h₁.trans h, hover⟩
  · obtain ⟨s₂, h₂, hd, htasks⟩ := exists_decided hlaunched hl₁ hc
    obtain ⟨s', ending, h, hover⟩ := exists_over hd (htasks ▸ hidle)
    exact ⟨s', ending, (h₁.trans h₂).trans h, hover⟩

theorem exists_ending (hrun : Run (initial config fresh names) actions s) :
    ∃ later s' ending, s.steps later = some s' ∧ s'.watch = .over ending ∧
      (s.abortRequested = false → s.phase ≠ .aborted → s'.phase = .completed) := by
  have reached (h : ∃ s' ending, Onward s s' ∧ s'.watch = .over ending) :
      ∃ later s' ending, s.steps later = some s' ∧ s'.watch = .over ending ∧
        (s.abortRequested = false → s.phase ≠ .aborted → s'.phase = .completed) := by
    obtain ⟨s', ending, h, hover⟩ := h
    obtain ⟨later, hl⟩ := h.steps
    refine ⟨later, s', ending, hl, hover, ?_⟩
    intro hr hp
    have hfits := (hrun.append hl).staged.watch
    rw [hover] at hfits
    cases ending with
    | completed l => exact hfits.1
    | panicked => exact hfits.1
    | aborted => exact absurd (h.phase hr hfits.1) hp
  apply reached
  obtain ⟨s₁, h₁, hl₁⟩ := exists_unlocked s
  obtain ⟨_, hrun₁⟩ := h₁.run hrun
  by_cases hw : s₁.watch = .absent
  · -- The rest of the tasks is submitted before the orchestrator begins.
    obtain ⟨s₂, h₂, -, hw₂, hrested⟩ := exists_rested hrun₁ hl₁
    obtain ⟨_, hrun₂⟩ := h₂.run hrun₁
    have hall : s₂.tasks.all (fun t => t.expiry ≠ .unscheduled) = true :=
      List.all_eq_true.mpr fun t ht => decide_eq_true (hrested.scheduled t ht)
    have hlaunch : s₂.step .launch = some { s₂ with phase := .running, watch := .outside } := by
      rw [step, launch, hw₂.mpr hw, hall]
      rfl
    have h₃ := Onward.of_step _ hlaunch rfl fun _ hp => by cases hp
    obtain ⟨s', ending, h, hover⟩ :=
      exists_over_of_launched (.concat hrun₂ hlaunch) rfl fun ha => by cases ha
    exact ⟨s', ending, ((h₁.trans h₂).trans h₃).trans h, hover⟩
  · obtain ⟨s', ending, h, hover⟩ := exists_over_of_launched hrun₁ hl₁ hw
    exact ⟨s', ending, h₁.trans h, hover⟩

end System

end ClassBatch.Batch
