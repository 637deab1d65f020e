import ClassBatch.Proofs.Batch.Liveness
import ClassBatch.Proofs.Batch.Masking

/-! How a batch ends: by completion or by abortion, never by both, and for good. The test for an abort
that comes last before the decision settles which of them it is. -/

namespace ClassBatch.Batch

def Action.isAbort : Action → Bool
  | .requestAbort | .signalAbort => true
  | _ => false

def Mask.asked (requested : Bool) (signals : Nat) : Mask where
  requested := fun _ => requested
  signals := fun _ => signals
  panics := id
  panicked := id
  panics_add := fun _ _ => rfl

lemma Action.mask_asked (requested : Bool) (signals : Nat) (action : Action) :
    action.mask (.asked requested signals) = action := by
  cases action <;> rfl

namespace System

variable {s s' s₁ start : System} {t t' : Task} {action : Action} {actions later : List Action}
  {ending : Ending} {requested : Bool} {signals : Nat}

lemma Unwatched.watch_eq (hu : Unwatched s s') (hd : s.watch.isDecided = true) :
    s'.watch = s.watch := by
  rcases hu.watch with hw | ⟨told, _, hw, _⟩
  · exact hw
  · rw [hw] at hd
    cases hd

lemma Unwatched.watch_eq_of {watch : Watch} (hu : Unwatched s s') (hw : s'.watch = watch)
    (hne : ∀ told, watch ≠ .asleep told) : s.watch = watch := by
  rcases hu.watch with he | ⟨_, told, _, he⟩
  · exact he.symm.trans hw
  · exact absurd (hw.symm.trans he) (hne told)

lemma Unwatched.undecided (hu : Unwatched s s')
    (hp : s'.watch = .unaborted ∨ s'.phase = .completed) :
    s.watch = .unaborted ∨ s.phase = .completed :=
  hp.imp (fun hw => hu.watch_eq_of hw nofun) hu.phase.symm.trans

lemma tell_eq_self (hd : s.watch.isDecided = true) : s.tell = s := by
  rw [tell_eq, (unwatched_tell s).watch_eq hd]

lemma WatchRule.of_decided (hr : WatchRule s action s') (hd : s.watch.isDecided = true) :
    s'.watch.isDecided = true ∧ action ≠ .testAbort ∧
      (action.isAbort = true → s'.mask (.asked requested signals) =
        s.mask (.asked requested signals)) := by
  -- The tests are over.
  have past {watch : Watch} (hw : s.watch = watch) (hu : watch.isDecided = false) : False := by
    rw [hw, hu] at hd
    cases hd
  cases hr with
  | requestAbort _ => exact ⟨hd, nofun, fun _ => rfl⟩
  | signalAbort _ _ =>
    rw [tell_eq_self hd]
    exact ⟨hd, nofun, fun _ => rfl⟩
  | sweepNext _ _ _ | sweepEnd _ => exact ⟨rfl, nofun, nofun⟩
  | closeCompleted _ _ _ | closeAborted _ _ _ => exact ⟨rfl, nofun, nofun⟩
  | complete _ _ | completePanicked _ _ => exact ⟨rfl, nofun, nofun⟩
  | launch hw _ | lock hw | heedAbort hw _ | findUnaborted hw _ => exact (past hw rfl).elim
  | findComplete hw _ | findIncomplete hw _ | giveUp hw | sleep hw => exact (past hw rfl).elim
  | wake hw | stir hw => exact (past hw rfl).elim

lemma TaskRule.ne_abort (hr : TaskRule s t action t' s₁) :
    action ≠ .testAbort ∧ action.isAbort = false := by
  cases hr <;> exact ⟨nofun, rfl⟩

lemma steps_without_aborts (hd : s.watch.isDecided = true) (hl : s.steps later = some s') :
    (s.mask (.asked requested signals)).steps (later.filter fun action => !action.isAbort) =
      some (s'.mask (.asked requested signals)) := by
  induction later generalizing s with
  | nil =>
    cases hl
    rfl
  | cons action later ih =>
    rw [steps_cons] at hl
    obtain ⟨s₁, hstep, hl⟩ := Option.bind_eq_some_iff.mp hl
    have hrule : s₁.watch.isDecided = true ∧ action ≠ .testAbort ∧
        (action.isAbort = true → s₁.mask (.asked requested signals) =
          s.mask (.asked requested signals)) := by
      rcases rule_of_step hstep with ⟨t, ht, t', s₂, hr, rfl⟩ | hr
      · refine ⟨by rw [hr.unwatched.watch_eq hd, hd], hr.ne_abort.1, fun ha => ?_⟩
        rw [hr.ne_abort.2] at ha
        cases ha
      · exact hr.of_decided hd
    obtain ⟨hd₁, htest, hsame⟩ := hrule
    cases ha : action.isAbort with
    | true =>
      rw [List.filter_cons_of_neg (by rw [ha]; exact Bool.false_ne_true), ← hsame ha]
      exact ih hd₁ hl
    | false =>
      have hunread : action.readsAbort = false := by
        cases action with
        | testAbort => exact absurd rfl htest
        | requestAbort | signalAbort => cases ha
        | _ => rfl
      have hmask := step_mask (s := s) (m := .asked requested signals) hunread
      rw [Action.mask_asked, hstep] at hmask
      rw [List.filter_cons_of_pos (by rw [ha]; rfl), steps_cons, hmask]
      exact ih hd₁ hl

lemma over_step (hw : s.watch = .over ending) (hstep : s.step action = some s') :
    s'.watch = .over ending := by
  have hd : s.watch.isDecided = true := by rw [hw]; rfl
  -- Nothing comes after the end.
  have past {watch : Watch} (hw' : s.watch = watch) (hne : watch ≠ .over ending) : False :=
    hne (hw'.symm.trans hw)
  rcases rule_of_step hstep with ⟨t, ht, t', s₁, hr, rfl⟩ | hr
  · rw [hr.unwatched.watch_eq hd, hw]
  · cases hr with
    | requestAbort _ => exact hw
    | signalAbort _ _ => exact (congrArg System.watch (tell_eq_self hd)).trans hw
    | launch h _ | lock h | heedAbort h _ | findUnaborted h _ => exact (past h nofun).elim
    | findComplete h _ | findIncomplete h _ | giveUp h | sleep h => exact (past h nofun).elim
    | wake h | stir h | sweepEnd h | sweepNext _ _ h => exact (past h nofun).elim
    | closeCompleted h _ _ | closeAborted h _ _ => exact (past h nofun).elim
    | complete _ h | completePanicked _ h => exact (past h nofun).elim

lemma panicked_step (hstep : s.step action = some s') :
    s'.watch = .over .panicked ↔ s.watch = .over .panicked ∨ action = .complete true := by
  constructor
  · intro hw
    rcases rule_of_step hstep with ⟨t, ht, t', s₁, hr, rfl⟩ | hr
    · exact Or.inl (hr.unwatched.watch_eq_of hw nofun)
    · cases hr with
      | requestAbort _ => exact Or.inl hw
      | signalAbort _ _ => exact Or.inl ((unwatched_tell s).watch_eq_of hw nofun)
      | completePanicked _ _ => exact Or.inr rfl
      | _ => cases hw
  · rintro (hw | rfl)
    · exact over_step hw hstep
    · rcases rule_of_step hstep with ⟨t, ht, t', s₁, hr, rfl⟩ | hr
      · cases hr
      · cases hr
        rfl

lemma WatchRule.tested (hr : WatchRule s action s')
    (hp : s'.watch = .unaborted ∨ s'.phase = .completed) :
    s.watch = .locked ∧ s.abortRequested = false ∧ action = .testAbort ∨
      (s.watch = .unaborted ∨ s.phase = .completed) ∧ action ≠ .testAbort := by
  cases hr with
  | findUnaborted hw ha => exact Or.inl ⟨hw, ha, rfl⟩
  | requestAbort _ => exact Or.inr ⟨hp, nofun⟩
  | signalAbort _ _ => exact Or.inr ⟨(unwatched_tell s).undecided hp, nofun⟩
  | findComplete hw _ => exact Or.inr ⟨Or.inl hw, nofun⟩
  | sweepNext name _ _ =>
    exact Or.inr ⟨Or.inr ((s.cancelUnsettled_phase name).symm.trans (hp.resolve_left nofun)), nofun⟩
  | launch _ _ | heedAbort _ _ | giveUp _ => rcases hp with hp | hp <;> cases hp
  | _ => exact Or.inr ⟨Or.inr (hp.resolve_left nofun), nofun⟩

lemma tested_step (hstep : s.step action = some s')
    (hp : s'.watch = .unaborted ∨ s'.phase = .completed) :
    s.watch = .locked ∧ s.abortRequested = false ∧ action = .testAbort ∨
      (s.watch = .unaborted ∨ s.phase = .completed) ∧ action ≠ .testAbort := by
  rcases rule_of_step hstep with ⟨t, _, t', s₁, hr, rfl⟩ | hr
  · exact Or.inr ⟨hr.unwatched.undecided hp, hr.ne_abort.1⟩
  · exact hr.tested hp

structure Doomed (s : System) : Prop where
  requested : s.abortRequested = true
  unmissed : ¬(s.watch = .unaborted ∨ s.phase = .completed)

lemma Doomed.step (h : s.Doomed) (hstep : s.step action = some s') : s'.Doomed := by
  refine ⟨abortRequested_mono hstep h.requested, fun hp => ?_⟩
  rcases tested_step hstep hp with ⟨_, ha, _⟩ | ⟨hp, _⟩
  · rw [h.requested] at ha
    cases ha
  · exact h.unmissed hp

section Reachable

variable {config : Config} {fresh : Bool} {names : List String}

lemma Run.panicked_iff (h : Run (initial config fresh names) actions s) :
    s.watch = .over .panicked ↔ .complete true ∈ actions := by
  induction h with
  | nil => exact ⟨nofun, nofun⟩
  | @concat _ _ _ action _ hstep ih =>
    rw [panicked_step hstep, ih, List.mem_append, List.mem_singleton, eq_comm (a := action)]

def LastTestNegative (start : System) (actions : List Action) : Prop :=
  ∃ before s after, actions = before ++ .testAbort :: after ∧ start.steps before = some s ∧
    s.watch = .locked ∧ s.abortRequested = false ∧ .testAbort ∉ after

lemma LastTestNegative.concat (h : LastTestNegative start actions) (hne : action ≠ .testAbort) :
    LastTestNegative start (actions ++ [action]) := by
  obtain ⟨before, s, after, rfl, hs, hw, ha, hafter⟩ := h
  refine ⟨before, s, after ++ [action], by simp, hs, hw, ha, ?_⟩
  rw [List.mem_append, List.mem_singleton]
  rintro (hm | he)
  · exact hafter hm
  · exact hne he.symm

lemma Run.lastTestNegative (h : Run (initial config fresh names) actions s)
    (hp : s.watch = .unaborted ∨ s.phase = .completed) :
    LastTestNegative (initial config fresh names) actions := by
  induction h with
  | nil => rcases hp with hp | hp <;> cases hp
  | @concat actions s s' action hrun hstep ih =>
    rcases tested_step hstep hp with ⟨hw, ha, rfl⟩ | ⟨hp, hne⟩
    · exact ⟨actions, s, [], rfl, hrun.steps, hw, ha, nofun⟩
    · exact (ih hp).concat hne

lemma Run.ledger_final (h : Run (initial config fresh names) actions s)
    (hp : s.phase = .completed) :
    Names.keys s.settlement.ledger.results = Names.sorted names ∧
      ∀ later s', s.steps later = some s' → s'.settlement.ledger = s.settlement.ledger := by
  refine ⟨h.sound.keys_of_isComplete (h.verdict.decided hp).2, fun later s' hl => ?_⟩
  refine (h.keeps (p := fun s' => s'.phase = .completed ∧
    s'.settlement.ledger = s.settlement.ledger) hl ⟨hp, rfl⟩ ?_).2
  intro _ s₁ _ s₂ hrun hstep hs₁
  have hcomplete := (hrun.verdict.decided hs₁.1).2
  exact ⟨(hrun.staged.phase_final hstep (Or.inl hs₁.1)).trans hs₁.1,
    (System.ledger_final hrun.sound.agreement hrun.sound.nodup hcomplete hstep).trans hs₁.2⟩

lemma Run.completions_ne_nil (h : Run (initial config fresh names) actions s)
    (hover : s.watch = .over ending) (hp : s.phase = .completed) : s.completions ≠ [] := by
  have hfits := h.staged.watch
  rw [hover] at hfits
  cases ending with
  | completed l =>
    rw [hfits.2]
    nofun
  | panicked =>
    obtain ⟨_, l, hl⟩ := hfits
    rw [hl]
    nofun
  | aborted => exact nomatch hfits.1.symm.trans hp

/-- Completion and abortion exclude each other, and each is final. The last test for an abort
decides: an abort that is requested before it leads to abortion, and one that is requested after a
decision of completion changes nothing. -/
theorem one_ending (config : Config) (fresh : Bool) (names : List String)
    (actions : List Action) (s : System)
    (h : (initial config fresh names).steps actions = some s) :
    (∀ action s', s.step action = some s' → s'.phase = s.phase ∨ s.phase.Leads s'.phase) ∧
    (s.phase = .completed ∨ s.phase = .aborted →
      ∀ later s', s.steps later = some s' → s'.phase = s.phase) ∧
    s.completions.length ≤ 1 ∧ (s.completions ≠ [] → s.phase = .completed) ∧
    (s.phase = .completed → ∃ later s', s.steps later = some s' ∧ s'.completions ≠ []) ∧
    (∀ ending, s.watch = .over ending →
      (s.completions ≠ [] ↔ s.phase = .completed) ∧
      ((∃ l, ending = .completed l) ↔ s.phase = .completed ∧ .complete true ∉ actions) ∧
      (ending = .aborted ↔ s.phase = .aborted)) ∧
    (∀ l, l ∈ s.completions ∨ s.watch = .over (.completed l) →
      l.results.length = (Names.sorted names).length ∧
      Names.keys l.results = Names.sorted names ∧
      ∀ later s', s.steps later = some s' → s'.settlement.ledger = l) ∧
    (s.abortRequested = true → s.watch ≠ .unaborted → s.phase ≠ .completed →
      (∀ later s', s.steps later = some s' → s'.phase ≠ .completed ∧ s'.completions = [] ∧
        ∀ ending, s'.watch = .over ending → ending = .aborted) ∧
      ∃ later s', s.steps later = some s' ∧ s'.watch = .over .aborted) ∧
    (s.phase = .completed → LastTestNegative (initial config fresh names) actions ∧
      ∀ later s', s.steps later = some s' →
        s.steps (later.filter fun action => !action.isAbort) = some { s' with
          abortRequested := s.abortRequested, abortSignals := s.abortSignals }) := by
  have hrun := run_of_steps h
  have hfits := hrun.staged.watch
  obtain ⟨hlength, hcompleted⟩ := hfits.completions_length
  refine ⟨fun _ _ => hrun.staged.phase_step, fun hp _ _ hl => hrun.phase_final hl hp, hlength,
    hcompleted, ?_, ?_, ?_, ?_, ?_⟩
  · intro hp
    obtain ⟨later, s', ending, hl, hover, -⟩ := exists_ending hrun
    refine ⟨later, s', hl, (hrun.append hl).completions_ne_nil hover ?_⟩
    rw [hrun.phase_final hl (Or.inl hp), hp]
  · intro ending hover
    have hpanicked := hrun.panicked_iff
    rw [hover] at hfits hpanicked
    refine ⟨⟨hcompleted, hrun.completions_ne_nil hover⟩, ?_, ?_⟩
    · rw [← hpanicked]
      cases ending with
      | completed l => exact ⟨fun _ => ⟨hfits.1, nofun⟩, fun _ => ⟨l, rfl⟩⟩
      | panicked => exact ⟨nofun, fun hp => absurd rfl hp.2⟩
      | aborted => exact ⟨nofun, fun hp => nomatch hfits.1.symm.trans hp.1⟩
    · cases ending with
      | aborted => exact ⟨fun _ => hfits.1, fun _ => rfl⟩
      | completed _ | panicked => exact ⟨nofun, fun hp => nomatch hfits.1.symm.trans hp⟩
  · intro l hl
    obtain ⟨-, hp, rfl⟩ := hrun.verdict.ledger l (hl.symm.imp_left fun hw => by rw [hw]; rfl)
    obtain ⟨hkeys, hfinal⟩ := hrun.ledger_final hp
    refine ⟨?_, hkeys, hfinal⟩
    rw [← hkeys, Names.keys, List.length_map]
  · intro ha hw hp
    have hdoomed {later : List Action} {s' : System} (hl : s.steps later = some s') : s'.Doomed :=
      hrun.keeps hl ⟨ha, not_or.mpr ⟨hw, hp⟩⟩ fun _ hstep hd => hd.step hstep
    have haborted {later : List Action} {s' : System} {ending : Ending}
        (hl : s.steps later = some s') (hover : s'.watch = .over ending) : ending = .aborted := by
      have hfits := (hrun.append hl).staged.watch
      rw [hover] at hfits
      cases ending with
      | aborted => rfl
      | completed _ | panicked => exact absurd (Or.inr hfits.1) (hdoomed hl).unmissed
    refine ⟨fun later s' hl => ?_, ?_⟩
    · have hp := (not_or.mp (hdoomed hl).unmissed).2
      have hempty := (hrun.append hl).staged.watch.completions_length.2
      exact ⟨hp, not_not.mp fun hne => hp (hempty hne), fun _ => haborted hl⟩
    · obtain ⟨later, s', ending, hl, hover, -⟩ := exists_ending hrun
      exact ⟨later, s', hl, haborted hl hover ▸ hover⟩
  · intro hp
    refine ⟨hrun.lastTestNegative (Or.inr hp), fun later s' hl => ?_⟩
    exact steps_without_aborts (hrun.verdict.decided hp).1 hl

end Reachable

def lateAbort : List Action :=
  [.requestAbort, .sweep, .signalAbort, .sweep, .close, .complete false]

theorem one_ending_around_abort :
    (∃ s s', (initial Config.default false ["a/A"]).steps
        (lastEntry ++ [.launch, .lock, .testAbort, .testComplete]) = some s ∧
      s.phase = .completed ∧ s.steps lateAbort = some s' ∧ s'.abortRequested = true ∧
      s.steps [.sweep, .sweep, .close, .complete false] = some { s' with
        abortRequested := s.abortRequested, abortSignals := s.abortSignals }) ∧
    ∃ s, (initial Config.default false ["a/A"]).steps
        (lastEntry ++ [.launch, .lock, .requestAbort]) = some s ∧
      s.settlement.ledger.isComplete = true ∧
      ∃ later s', s.steps later = some s' ∧ s'.watch = .over .aborted := by
  constructor
  · have hfinal : ((initial Config.default false ["a/A"]).steps
        (lastEntry ++ [.launch, .lock, .testAbort, .testComplete])).any (fun s =>
          s.phase = .completed ∧ (s.steps lateAbort).any System.abortRequested) = true := by
      decide
    obtain ⟨s, hs, hfinal⟩ := (Option.any_eq_true _ _).mp hfinal
    obtain ⟨hp, hlate⟩ := of_decide_eq_true hfinal
    obtain ⟨s', hl, ha⟩ := (Option.any_eq_true _ _).mp hlate
    obtain ⟨_, _, _, _, _, _, _, _, hcompleted⟩ := one_ending _ _ _ _ s hs
    exact ⟨s, s', hs, hp, hl, ha, (hcompleted hp).2 lateAbort s' hl⟩
  · have hfinal : ((initial Config.default false ["a/A"]).steps
        (lastEntry ++ [.launch, .lock, .requestAbort])).any (fun s =>
          s.settlement.ledger.isComplete = true ∧ s.abortRequested = true ∧
            s.watch ≠ .unaborted ∧ s.phase ≠ .completed) = true := by
      decide
    obtain ⟨s, hs, hfinal⟩ := (Option.any_eq_true _ _).mp hfinal
    obtain ⟨hc, ha, hw, hp⟩ := of_decide_eq_true hfinal
    obtain ⟨_, _, _, _, _, _, _, haborted, _⟩ := one_ending _ _ _ _ s hs
    exact ⟨s, hs, hc, (haborted ha hw hp).2⟩

end System

end ClassBatch.Batch
