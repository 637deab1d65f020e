import ClassBatch.Proofs.Batch.Cancelling
import ClassBatch.Proofs.Batch.Liveness

/-! What a worker hears of its class. Once it is past its checks, it hears one answer and attempts
to settle the class with it, unless the creation of its backend panics. -/

namespace ClassBatch.Batch

inductive Action.Brings (fresh : Bool) (name : String) : Action → Outcome → Prop
  | source (text : String) :
      Brings fresh name (.reply name (.source text)) (.success (Source.unescape text))
  | error (cause : DecompileError) :
      Brings fresh name (.reply name (.error cause))
        (.failure (Source.failureStub name) cause.message)
  | panic (payload : Option String) :
      Brings fresh name (.reply name (.panic payload))
        (.failure (Source.failureStub name)
          (DecompileError.panicked (payload.getD "unknown panic")).message)
  | refusal (cause : DecompileError) : fresh = true →
      Brings fresh name (.equip name (.refused cause))
        (.failure (Source.failureStub name) cause.message)

/-- What an attempt to settle a class with some outcome has come to. It fails only if the timer was
faster. -/
def Attempt.Carries (results : List (String × Outcome)) (name : String) (outcome : Outcome) :
    Attempt → Prop
  | .ready offered _ | .holding offered _ | .won offered _ => offered = outcome
  | .over false => (name, expired name) ∈ results
  | _ => (name, outcome) ∈ results

def Attempt.hasEntered : Attempt → Bool
  | .entered _ | .reporting | .reported | .telling | .over true => true
  | _ => false

def Work.hasPassed : Work → Bool
  | .checked | .equipped _ | .calling _ | .answered _ | .settling _ | .lost => true
  | _ => false

def Work.hasEntered : Work → Bool
  | .settling attempt => attempt.hasEntered
  | _ => false

def Work.Heard (heard : Outcome → Prop) (results : List (String × Outcome)) (name : String) :
    Work → Prop
  | .answered outcome => ∀ other, heard other ↔ other = outcome
  | .settling attempt => ∃ outcome, (∀ other, heard other ↔ other = outcome) ∧
      attempt.Carries results name outcome
  | _ => ∀ other, ¬heard other

variable {fresh : Bool} {name : String} {outcome other : Outcome} {action : Action}
  {results results' : List (String × Outcome)} {p p' : Outcome → Prop}

lemma Action.Brings.name? (h : action.Brings fresh name outcome) : action.name? = some name := by
  cases h <;> rfl

lemma Action.brings_reply_iff {reply : Reply} :
    (Action.reply name reply).Brings fresh name outcome ↔ outcome = reply.outcome name := by
  constructor
  · rintro (_ | _ | _) <;> rfl
  · rintro rfl
    cases reply with
    | source text => exact .source text
    | error cause => exact .error cause
    | panic payload => exact .panic payload

lemma Action.brings_refusal_iff {cause : DecompileError} :
    (Action.equip name (.refused cause)).Brings true name outcome ↔
      outcome = failure name cause := by
  constructor
  · rintro ⟨⟩
    rfl
  · rintro rfl
    exact .refusal cause rfl

lemma Attempt.Carries.mono {attempt : Attempt} (h : attempt.Carries results name outcome)
    (hr : results ⊆ results') : attempt.Carries results' name outcome := by
  cases attempt with
  | ready _ _ | holding _ _ | won _ _ => exact h
  | «over» settled => cases settled <;> exact hr h
  | _ => exact hr h

lemma Attempt.Carries.mem {attempt : Attempt} (h : attempt.Carries results name outcome)
    (he : attempt.hasEntered = true) : (name, outcome) ∈ results := by
  cases attempt with
  | ready _ _ | holding _ _ | won _ _ => cases he
  | «over» settled =>
    cases settled with
    | true => exact h
    | false => cases he
  | _ => exact h

lemma Work.Heard.mono {work : Work} (h : work.Heard p results name)
    (hp : ∀ outcome, p' outcome ↔ p outcome) (hr : results ⊆ results') :
    work.Heard p' results' name := by
  obtain rfl : p' = p := funext fun outcome => propext (hp outcome)
  cases work with
  | settling attempt =>
    obtain ⟨outcome, hone, hc⟩ := h
    exact ⟨outcome, hone, hc.mono hr⟩
  | _ => exact h

lemma Work.Heard.settles {work : Work} (h : work.Heard p results name) (hp : p outcome) :
    work = .answered outcome ∨
      ∃ attempt, work = .settling attempt ∧ attempt.Carries results name outcome := by
  cases work with
  | answered known => exact Or.inl ((h outcome).mp hp ▸ rfl)
  | settling attempt =>
    obtain ⟨known, hone, hc⟩ := h
    exact Or.inr ⟨attempt, rfl, (hone outcome).mp hp ▸ hc⟩
  | _ => exact absurd hp (h outcome)

namespace System

variable {s s' s₁ : System} {t t' u : Task} {attempt attempt' : Attempt} {panics : Bool}
  {side : Side} {actions later : List Action}

def heard (fresh : Bool) (actions : List Action) (name : String) (outcome : Outcome) : Prop :=
  ∃ action ∈ actions, action.Brings fresh name outcome

lemma heard_append : heard fresh (actions ++ later) name outcome ↔
    heard fresh actions name outcome ∨ heard fresh later name outcome := by
  simp only [heard, List.mem_append, or_and_right, exists_or]

lemma heard_concat : heard fresh (actions ++ [action]) name outcome ↔
    heard fresh actions name outcome ∨ action.Brings fresh name outcome := by
  simp only [heard, List.mem_append, List.mem_singleton, or_and_right, exists_or, exists_eq_left]

lemma AttemptRule.results_cases (h : AttemptRule s name panics attempt attempt' s') :
    s'.settlement.ledger.results = s.settlement.ledger.results ∧
        (attempt.hasEntered = true → attempt'.hasEntered = true) ∨
      ∃ outcome duration, attempt = .won outcome duration ∧ attempt'.hasEntered = true ∧
        ∀ entry, entry ∈ s'.settlement.ledger.results ↔
          entry = (name, outcome) ∨ entry ∈ s.settlement.ledger.results := by
  cases h with
  | enter outcome duration ha =>
    exact Or.inr ⟨outcome, duration, rfl, rfl, fun entry =>
      Names.mem_put (Ledger.accepts_iff.mp ha).1⟩
  | acquire _ _ _ | win _ _ _ | lose _ _ _ | refuse _ _ _ => exact Or.inl ⟨rfl, nofun⟩
  | report _ | finish | release => exact Or.inl ⟨rfl, fun _ => rfl⟩
  | tell _ =>
    rw [tell_settlement]
    exact Or.inl ⟨rfl, fun _ => rfl⟩

lemma AttemptRule.carries (h : AttemptRule s name panics attempt attempt' s')
    (hc : attempt.Carries s.settlement.ledger.results name outcome)
    (hlost : ∀ outcome duration, attempt = .holding outcome duration →
      s.settlement.isSettled name = true →
        (name, expired name) ∈ s.settlement.ledger.results)
    (hroom : ∀ outcome duration, attempt = .won outcome duration →
      s.settlement.ledger.accepts name = true) :
    attempt'.Carries s'.settlement.ledger.results name outcome := by
  have hmono := h.settlement_mono.2
  cases h with
  | acquire _ _ _ | win _ _ _ => exact hc
  | lose outcome duration hf => exact hlost outcome duration rfl hf
  | enter outcome duration ha =>
    obtain rfl : outcome = _ := hc
    exact (Names.mem_put (Ledger.accepts_iff.mp ha).1).mpr (Or.inl rfl)
  | refuse outcome duration hf =>
    rw [hroom outcome duration rfl] at hf
    cases hf
  | report _ | finish | release | tell _ => exact hmono hc

lemma TaskRule.heard (hr : TaskRule s t action t' s₁)
    (h : t.work.Heard p s.settlement.ledger.results t.name)
    (hlost : ∀ outcome duration, t.work = .settling (.holding outcome duration) →
      s.settlement.isSettled t.name = true →
        (t.name, expired t.name) ∈ s.settlement.ledger.results)
    (hroom : ∀ outcome duration, t.work = .settling (.won outcome duration) →
      s.settlement.ledger.accepts t.name = true) :
    t'.work.Heard (fun outcome => p outcome ∨ action.Brings s.fresh t.name outcome)
      s₁.settlement.ledger.results t.name := by
  -- Most actions bring no outcome.
  have silent {work : Work} {results : List (String × Outcome)}
      (h : work.Heard p results t.name) (hb : ∀ outcome, ¬action.Brings s.fresh t.name outcome) :
      work.Heard (fun outcome => p outcome ∨ action.Brings s.fresh t.name outcome) results
        t.name :=
    h.mono (fun outcome => or_iff_left (hb outcome)) (List.Subset.refl _)
  cases hr with
  | submit hw _ | take hw _ _ | skipSettled hw _ _ | check hw _ | skipCancelled hw _ =>
    rw [hw] at h
    exact silent h nofun
  | create hw _ | createPanicked hw _ =>
    rw [hw] at h
    exact silent h nofun
  | call backend hw =>
    rw [hw] at h
    exact silent h nofun
  | schedule _ _ | fire _ _ _ | cancel _ => exact silent h nofun
  | share creation hw hf =>
    rw [hw] at h
    refine silent h fun outcome hb => ?_
    rw [hf] at hb
    cases hb with
    | refusal _ hf => cases hf
  | createRefused cause hw hf =>
    rw [hw] at h
    intro outcome
    rw [← Action.brings_refusal_iff, ← hf]
    exact or_iff_right (h outcome)
  | reply backend reply hw =>
    rw [hw] at h
    intro outcome
    exact (or_iff_right (h outcome)).trans Action.brings_reply_iff
  | time outcome duration hw =>
    rw [hw] at h
    exact silent ⟨outcome, h, rfl⟩ nofun
  | advanceWorker hw ha =>
    rw [hw] at h
    obtain ⟨outcome, hone, hc⟩ := h
    have hc' := ha.carries hc (fun outcome duration hx => hlost outcome duration (hx ▸ hw))
      fun outcome duration hx => hroom outcome duration (hx ▸ hw)
    exact silent ⟨outcome, hone, hc'⟩ nofun
  | advanceTimer _ ha =>
    rw [(t.resume_timer _).1]
    exact silent (h.mono (fun _ => Iff.rfl) ha.settlement_mono.2) nofun

lemma TaskRule.entered (hr : TaskRule s t action t' s₁) (hf : t.Fair s.settlement.ledger.results)
    (h : ∀ outcome, (t.name, outcome) ∈ s.settlement.ledger.results →
      outcome = expired t.name ∨ t.work.hasEntered = true)
    (hm : (t.name, outcome) ∈ s₁.settlement.ledger.results) :
    outcome = expired t.name ∨ t'.work.hasEntered = true := by
  cases hr with
  | advanceWorker hw ha =>
    rcases ha.results_cases with ⟨hs, he⟩ | ⟨_, _, _, he, _⟩
    · rw [hs] at hm
      refine (h outcome hm).imp_right fun hx => ?_
      rw [hw] at hx
      exact he hx
    · exact Or.inr he
  | advanceTimer he ha =>
    rw [(t.resume_timer _).1]
    rcases ha.results_cases with ⟨hs, _⟩ | ⟨offered, duration, hwon, _, hs⟩
    · exact h outcome (hs ▸ hm)
    · rcases (hs _).mp hm with hx | hm
      · left
        rw [(Prod.mk.inj hx).2]
        exact hf.offered _ offered duration he (by rw [hwon]; rfl)
      · exact h outcome hm
  | submit hw _ | take hw _ _ | skipSettled hw _ _ | check hw _ | skipCancelled hw _ =>
    refine (h outcome hm).imp_right fun hx => ?_
    rw [hw] at hx
    cases hx
  | share _ hw _ | create hw _ | createRefused _ hw _ | createPanicked hw _ =>
    refine (h outcome hm).imp_right fun hx => ?_
    rw [hw] at hx
    cases hx
  | call _ hw | reply _ _ hw | time _ _ hw =>
    refine (h outcome hm).imp_right fun hx => ?_
    rw [hw] at hx
    cases hx
  | schedule _ _ | fire _ _ _ | cancel _ => exact h outcome hm

lemma TaskRule.results_of_ne (hr : TaskRule s t action t' s₁) (hn : name ≠ t.name)
    (hm : (name, outcome) ∈ s₁.settlement.ledger.results) :
    (name, outcome) ∈ s.settlement.ledger.results := by
  have advance {panics : Bool} {attempt attempt' : Attempt}
      (ha : AttemptRule s t.name panics attempt attempt' s₁) :
      (name, outcome) ∈ s.settlement.ledger.results := by
    rcases ha.results_cases with ⟨hs, _⟩ | ⟨_, _, _, _, hs⟩
    · exact hs ▸ hm
    · exact ((hs _).mp hm).resolve_left fun hx => hn (Prod.mk.inj hx).1
  cases hr with
  | advanceWorker _ ha | advanceTimer _ ha => exact advance ha
  | _ => exact hm

lemma TaskRule.results_mono (hr : TaskRule s t action t' s₁) :
    s.settlement.ledger.results ⊆ s₁.settlement.ledger.results := by
  cases hr with
  | advanceWorker _ ha | advanceTimer _ ha => exact ha.settlement_mono.2
  | _ => exact List.Subset.refl _

lemma TaskRule.name? (hr : TaskRule s t action t' s₁) : action.name? = some t.name := by
  cases hr <;> rfl

lemma TaskRule.lost_iff (hr : TaskRule s t action t' s₁) : t'.work = .lost ↔
    t.work = .lost ∨ s.fresh = true ∧ action = .equip t.name .panicked := by
  cases hr with
  | createPanicked hw hf => simp [hw, hf]
  | share creation hw hf => simp [hw, hf]
  | advanceWorker hw _ => simp [hw, Task.resume]
  | advanceTimer _ _ => simp [t.resume_timer]
  | submit hw _ | take hw _ _ | skipSettled hw _ _ | check hw _ | skipCancelled hw _ => simp [hw]
  | create hw _ | createRefused _ hw _ | call _ hw | reply _ _ hw | time _ _ hw => simp [hw]
  | schedule _ _ | fire _ _ _ | cancel _ => simp

lemma TaskRule.hasPassed (hr : TaskRule s t action t' s₁) (h : t.work.hasPassed = true) :
    t'.work.hasPassed = true := by
  cases hr with
  | submit hw _ | take hw _ _ | skipSettled hw _ _ | check hw _ | skipCancelled hw _ =>
    rw [hw] at h
    cases h
  | schedule _ _ | fire _ _ _ | cancel _ => exact h
  | advanceTimer _ _ => rwa [(t.resume_timer _).1]
  | _ => rfl

lemma WatchRule.settlement (hr : WatchRule s action s') : s'.settlement = s.settlement := by
  cases hr with
  | signalAbort _ _ => exact s.tell_settlement
  | sweepNext name _ _ => exact s.cancelUnsettled_settlement name
  | _ => rfl

lemma WatchRule.name? (hr : WatchRule s action s') : action.name? = none := by
  cases hr <;> rfl

structure Hearing (s : System) (fresh : Bool) (actions : List Action) : Prop where
  fresh_eq : s.fresh = fresh
  tasks : ∀ t ∈ s.tasks,
    t.work.Heard (heard fresh actions t.name) s.settlement.ledger.results t.name
  entered : ∀ t ∈ s.tasks, ∀ outcome, (t.name, outcome) ∈ s.settlement.ledger.results →
    outcome = expired t.name ∨ t.work.hasEntered = true
  lost : ∀ t ∈ s.tasks, t.work = .lost ↔ fresh = true ∧ .equip t.name .panicked ∈ actions

namespace Hearing

lemma expired_of_settled {names : List String} {duration : Duration}
    (h : s.Hearing fresh actions) (hsound : s.Sound names) (ht : t ∈ s.tasks)
    (hw : t.work = .settling (.holding outcome duration))
    (hf : s.settlement.isSettled t.name = true) :
    (t.name, expired t.name) ∈ s.settlement.ledger.results := by
  have ha : t.attempt? .worker = some (.holding outcome duration) := by
    rw [Task.attempt?, hw]
    rfl
  have hk := hsound.agreement.settled hsound.nodup ht ha hsound.delivery rfl (by simp) hf
  obtain ⟨entered, he⟩ := Names.mem_keys.mp hk
  obtain rfl : entered = expired t.name := by
    refine (h.entered t ht entered he).resolve_right fun hx => ?_
    rw [hw] at hx
    cases hx
  exact he

lemma heard_of_result {names : List String} (h : s.Hearing fresh actions) (hsound : s.Sound names)
    (hm : (name, outcome) ∈ s.settlement.ledger.results) :
    outcome = expired name ∨ heard fresh actions name outcome := by
  obtain ⟨t, ht, rfl⟩ : ∃ t ∈ s.tasks, t.name = name := by
    rw [← List.mem_map, hsound.names]
    exact hsound.keys_subset (List.mem_map_of_mem hm)
  refine (h.entered t ht outcome hm).imp_right fun he => ?_
  have hheard := h.tasks t ht
  cases hw : t.work with
  | settling attempt =>
    rw [hw] at he hheard
    obtain ⟨carried, hone, hc⟩ := hheard
    have hsame := List.inj_on_of_nodup_map hsound.agreement.ordered.nodup (hc.mem he) hm rfl
    exact (hone outcome).mpr (Prod.mk.inj hsame).2.symm
  | _ =>
    rw [hw] at he
    cases he

lemma taskRule {names : List String} (h : s.Hearing fresh actions) (hsound : s.Sound names)
    (hsparing : s.Sparing) (ht : t ∈ s.tasks) (hr : TaskRule s t action t' s₁) :
    (s₁.setTask t').Hearing fresh (actions ++ [action]) := by
  have hmem {u : Task} (hu : u ∈ (s₁.setTask t').tasks) :
      u = t' ∨ u ∈ s.tasks ∧ u.name ≠ t.name := by
    have h₁ := hr.tasks
    rw [← h₁] at ht ⊢
    rw [← hr.name_eq]
    exact (mem_setTask_iff hr.name_eq ht).mp hu
  refine ⟨hr.settings.2.trans h.fresh_eq, fun u hu => ?_, fun u hu outcome hm => ?_,
    fun u hu => ?_⟩
  · rcases hmem hu with rfl | ⟨hu, hn⟩
    · have hroom : ∀ outcome duration, t.work = .settling (.won outcome duration) →
          s.settlement.ledger.accepts t.name = true := by
        intro outcome duration hw
        have ha : t.attempt? .worker = some (.won outcome duration) := by
          rw [Task.attempt?, hw]
          rfl
        exact hsound.agreement.accepts ((attempt?_of_mem hsound.nodup ht .worker).trans ha)
      have hheard := hr.heard (h.tasks t ht) (fun _ _ => h.expired_of_settled hsound ht) hroom
      rw [hr.name_eq]
      refine hheard.mono (fun outcome => ?_) (List.Subset.refl _)
      rw [heard_concat, h.fresh_eq]
    · refine (h.tasks u hu).mono (fun outcome => ?_) hr.results_mono
      rw [heard_concat]
      refine or_iff_left fun hb => hn ?_
      exact Option.some.inj (hb.name?.symm.trans hr.name?)
  · rcases hmem hu with rfl | ⟨hu, hn⟩
    · rw [hr.name_eq] at hm ⊢
      exact hr.entered (hsparing.fair t ht) (h.entered t ht) hm
    · exact h.entered u hu outcome (hr.results_of_ne hn hm)
  · rw [List.mem_append, List.mem_singleton, and_or_left]
    rcases hmem hu with rfl | ⟨hu, hn⟩
    · rw [hr.lost_iff, h.lost t ht, hr.name_eq, h.fresh_eq, eq_comm (a := action)]
    · rw [h.lost u hu, or_iff_left]
      rintro ⟨_, rfl⟩
      exact hn (Option.some.inj hr.name?)

lemma step {names : List String} (h : s.Hearing fresh actions) (hsound : s.Sound names)
    (hsparing : s.Sparing) (hstep : s.step action = some s') :
    s'.Hearing fresh (actions ++ [action]) := by
  rcases rule_of_step hstep with ⟨t, ht, t', s₁, hr, rfl⟩ | hr
  · exact h.taskRule hsound hsparing ht hr
  · refine ⟨hr.settings.2.trans h.fresh_eq, fun t ht => ?_, fun t ht => ?_, fun t ht => ?_⟩
    all_goals
      obtain ⟨u, hu, cancelled, rfl⟩ := hr.mem_tasks ht
    · rw [hr.settlement]
      refine (h.tasks u hu).mono (fun outcome => ?_) (List.Subset.refl _)
      rw [heard_concat]
      refine or_iff_left fun hb => ?_
      cases hb.name?.symm.trans hr.name?
    · rw [hr.settlement]
      exact h.entered u hu
    · rw [h.lost u hu, List.mem_append, List.mem_singleton, and_or_left, or_iff_left]
      rintro ⟨_, rfl⟩
      cases hr

lemma initial (config : Config) (fresh : Bool) (names : List String) :
    (System.initial config fresh names).Hearing fresh [] := by
  refine ⟨rfl, fun t ht => ?_, fun t ht => nofun, fun t ht => ?_⟩
  all_goals obtain ⟨name, _, rfl⟩ := List.mem_map.mp ht
  · rintro outcome ⟨_, hm, _⟩
    cases hm
  · simp

end Hearing

section Reachable

variable {config : Config} {names : List String}

lemma Run.hearing (h : Run (initial config fresh names) actions s) : s.Hearing fresh actions := by
  induction h with
  | nil => exact Hearing.initial config fresh names
  | concat hrun hstep ih => exact ih.step hrun.sound hrun.sparing hstep

lemma Run.named (h : Run (initial config fresh names) actions s) (hm : action ∈ actions)
    (hn : action.name? = some name) : ∃ t ∈ s.tasks, t.name = name := by
  rw [← List.mem_map]
  induction h with
  | nil => cases hm
  | concat hrun hstep ih =>
    rw [(hrun.concat hstep).sound.names, ← hrun.sound.names]
    rcases List.mem_append.mp hm with hm | hm
    · exact ih hm
    · obtain rfl := List.mem_singleton.mp hm
      rcases rule_of_step hstep with ⟨t, ht, _, _, hr, _⟩ | hr
      · rw [← Option.some.inj (hr.name?.symm.trans hn)]
        exact List.mem_map_of_mem ht
      · cases hn.symm.trans hr.name?

lemma Run.passed (h : Run (initial config fresh names) actions s) (ht : t ∈ s.tasks)
    (hp : t.work.hasPassed = true) (hl : s.steps later = some s') :
    ∃ u ∈ s'.tasks, u.name = t.name ∧ u.work.hasPassed = true := by
  have hpassed : ∀ u ∈ s'.tasks, u.name = t.name → u.work.hasPassed = true := by
    refine h.keeps (p := fun s' => ∀ u ∈ s'.tasks, u.name = t.name → u.work.hasPassed = true)
      hl ?_ ?_
    · intro u hu hn
      rwa [eq_of_name_eq h.sound.nodup hu ht hn]
    · intro _ s₁ _ s₂ hrun hstep hold u hu hn
      rcases task_origin hrun.sound.nodup hstep hu with
        hu | ⟨v, hv, _, hr, _⟩ | ⟨v, hv, _, _, _, rfl⟩
      · exact hold u hu hn
      · exact hr.hasPassed (hold v hv (hr.name_eq.symm.trans hn))
      · exact hold v hv hn
  obtain ⟨u, hu, hn⟩ : ∃ u ∈ s'.tasks, u.name = t.name := by
    rw [← List.mem_map, (h.append hl).sound.names, ← h.sound.names]
    exact List.mem_map_of_mem ht
  exact ⟨u, hu, hn, hpassed u hu hn⟩

end Reachable

def Attempts (s : System) (name : String) (actions : List Action) : Prop :=
  ∃ s', s.steps actions = some s' ∧
    ∃ t ∈ s'.tasks, t.name = name ∧ ∃ attempt, t.work = .settling attempt

section Own

variable (hs : (s.tasks.map Task.name).Nodup) (ht : t ∈ s.tasks)

include hs ht

lemma attempts_cons (s₁ : System) (t' : Task) (hn : action.name? = some t.name)
    (hn' : t'.name = t.name) (h₁ : s₁.tasks = s.tasks)
    (hstep : s.stepTask t action = some (s₁.setTask t'))
    (h : ((s₁.setTask t').tasks.map Task.name).Nodup → t' ∈ (s₁.setTask t').tasks →
      (s₁.setTask t').Attempts t'.name actions) :
    s.Attempts t.name (action :: actions) := by
  have hnodup : ((s₁.setTask t').tasks.map Task.name).Nodup := by rwa [setTask_names, h₁]
  have hm : t' ∈ (s₁.setTask t').tasks := (mem_setTask_iff hn' (h₁ ▸ ht)).mpr (Or.inl rfl)
  obtain ⟨s', hs', hattempt⟩ := h hnodup hm
  refine ⟨s', ?_, hn' ▸ hattempt⟩
  rw [steps_cons, step_of_stepTask hs ht hn, hstep, Option.bind_some, hs']

lemma attempts_of_answered (hw : t.work = .answered outcome) (duration : Duration) :
    s.Attempts t.name [.time t.name duration] := by
  refine attempts_cons hs ht s { t with work := .settling (.ready outcome duration) } rfl rfl rfl
    (by rw [stepTask, hw]; rfl) fun _ hm => ?_
  exact ⟨_, rfl, _, hm, rfl, _, rfl⟩

lemma attempts_of_calling {backend : Nat} (hw : t.work = .calling backend) (reply : Reply)
    (duration : Duration) : s.Attempts t.name [.reply t.name reply, .time t.name duration] :=
  attempts_cons hs ht s { t with work := .answered (reply.outcome t.name) } rfl rfl rfl
    (by rw [stepTask, hw]; rfl) fun hs hm => attempts_of_answered hs hm rfl duration

lemma attempts_of_equipped {backend : Nat} (hw : t.work = .equipped backend) (reply : Reply)
    (duration : Duration) :
    s.Attempts t.name [.call t.name, .reply t.name reply, .time t.name duration] :=
  attempts_cons hs ht { s with calls := s.calls ++ [(backend, t.name)] }
    { t with work := .calling backend } rfl rfl rfl (by rw [stepTask, hw]; rfl)
    fun hs hm => attempts_of_calling hs hm rfl reply duration

lemma attempts_of_checked (hw : t.work = .checked) (creation : Creation)
    (hc : s.fresh = true → creation ≠ .panicked) (reply : Reply) (duration : Duration) :
    ∃ own : List Action, own.Sublist [.equip t.name creation, .call t.name, .reply t.name reply,
      .time t.name duration] ∧ s.Attempts t.name own := by
  cases hf : s.fresh with
  | false =>
    refine ⟨_, List.Sublist.refl _, ?_⟩
    exact attempts_cons hs ht s { t with work := .equipped 0 } rfl rfl rfl
      (by simp [stepTask, hw, hf, setWork])
      fun hs hm => attempts_of_equipped hs hm rfl reply duration
  | true =>
    cases creation with
    | made =>
      refine ⟨_, List.Sublist.refl _, ?_⟩
      exact attempts_cons hs ht { s with created := s.created + 1 }
        { t with work := .equipped s.created } rfl rfl rfl
        (by simp [stepTask, hw, hf, setWork])
        fun hs hm => attempts_of_equipped hs hm rfl reply duration
    | refused cause =>
      refine ⟨[.equip t.name (.refused cause), .time t.name duration], by simp, ?_⟩
      exact attempts_cons hs ht { s with created := s.created + 1 }
        { t with work := .answered (failure t.name cause) } rfl rfl rfl
        (by simp [stepTask, hw, hf, setWork])
        fun hs hm => attempts_of_answered hs hm rfl duration
    | panicked => exact absurd rfl (hc hf)

lemma attempts_of_passed (hp : t.work.hasPassed = true) (hlost : t.work ≠ .lost)
    (creation : Creation) (hc : s.fresh = true → creation ≠ .panicked) (reply : Reply)
    (duration : Duration) :
    ∃ own : List Action, own.Sublist [.equip t.name creation, .call t.name, .reply t.name reply,
      .time t.name duration] ∧ s.Attempts t.name own := by
  cases hw : t.work with
  | unsubmitted | queued | taken | skipped =>
    rw [hw] at hp
    cases hp
  | lost => exact absurd hw hlost
  | checked => exact attempts_of_checked hs ht hw creation hc reply duration
  | equipped backend =>
    refine ⟨_, ?_, attempts_of_equipped hs ht hw reply duration⟩
    exact List.sublist_cons_self _ _
  | calling backend =>
    refine ⟨_, ?_, attempts_of_calling hs ht hw reply duration⟩
    exact (List.sublist_cons_self _ _).cons _
  | answered outcome =>
    refine ⟨_, ?_, attempts_of_answered hs ht hw duration⟩
    exact ((List.sublist_cons_self _ _).cons _).cons _
  | settling attempt => exact ⟨[], List.nil_sublist _, s, rfl, t, ht, rfl, attempt, hw⟩

end Own

/-- A worker that is past its checks settles its class, with what it has heard of it, unless the
creation of its backend panics. Then it makes no attempt, and only a timeout can settle the
class. -/
theorem worker_settles_unless_creation_panics (config : Config) (fresh : Bool)
    (names : List String) (actions : List Action) (s : System)
    (h : (initial config fresh names).steps actions = some s) (t : Task) (ht : t ∈ s.tasks)
    (hw : t.work = .checked) (later : List Action) (s' : System) (hl : s.steps later = some s') :
    ∃ u ∈ s'.tasks, u.name = t.name ∧
      (u.work = .lost ↔ fresh = true ∧ .equip t.name .panicked ∈ later) ∧
      (u.work = .lost → ∀ outcome, (t.name, outcome) ∈ s'.settlement.ledger.results →
        outcome = .timedOut (Source.timeoutStub t.name)) ∧
      (∀ attempt, u.work = .settling attempt →
        ∃ outcome, (∀ other, heard fresh later t.name other ↔ other = outcome) ∧
          attempt.Carries s'.settlement.ledger.results t.name outcome) ∧
      (u.work ≠ .lost → ∀ creation reply duration, (fresh = true → creation ≠ .panicked) →
        ∃ own : List Action, own.Sublist [.equip t.name creation, .call t.name,
          .reply t.name reply, .time t.name duration] ∧ s'.Attempts t.name own) := by
  have hrun := run_of_steps h
  have hrun' := hrun.append hl
  have hhearing := hrun.hearing
  have hhearing' := hrun'.hearing
  obtain ⟨u, hu, hn, hpassed⟩ := hrun.passed ht (by rw [hw]; rfl) hl
  refine ⟨u, hu, hn, ?_, ?_, ?_, ?_⟩
  · have hnot : ¬(fresh = true ∧ .equip t.name .panicked ∈ actions) := by
      rw [← hhearing.lost t ht, hw]
      nofun
    rw [hhearing'.lost u hu, hn, List.mem_append, and_or_left, or_iff_right hnot]
  · intro hlost outcome hm
    rw [← hn] at hm ⊢
    refine (hhearing'.entered u hu outcome hm).resolve_right fun he => ?_
    rw [hlost] at he
    cases he
  · intro attempt hattempt
    have hheard := hhearing'.tasks u hu
    rw [hattempt] at hheard
    obtain ⟨outcome, hone, hc⟩ := hheard
    rw [← hn]
    refine ⟨outcome, fun other => ?_, hc⟩
    -- Before its checks were done the worker had heard nothing.
    have hsilent := hhearing.tasks t ht
    rw [hw, ← hn] at hsilent
    rw [← hone, heard_append, or_iff_right (hsilent other)]
  · intro hlost creation reply duration hc
    rw [← hn]
    exact attempts_of_passed hrun'.sound.nodup hu hpassed hlost creation
      (hhearing'.fresh_eq ▸ hc) reply duration

def checking : List Action :=
  [.submit "a/A", .schedule "a/A", .launch, .take "a/A", .check "a/A"]

def refusal : List Action :=
  [.equip "a/A" (.refused (.noOutput "a/A")), .time "a/A" (Duration.ofSeconds 1)]

theorem worker_settles_after_refusal :
    ∃ s s', (initial Config.default true ["a/A"]).steps checking = some s ∧
      s.steps refusal = some s' ∧
      s'.attempt? .worker "a/A" =
        some (.ready (failure "a/A" (.noOutput "a/A")) (Duration.ofSeconds 1)) ∧
      ∀ outcome, heard true refusal "a/A" outcome ↔
        outcome = failure "a/A" (.noOutput "a/A") := by
  have hchecked : ((initial Config.default true ["a/A"]).steps checking).any (fun s =>
      s.task? "a/A" = some ⟨"a/A", .checked, .scheduled, false⟩) = true := by decide
  obtain ⟨s, hs, hchecked⟩ := (Option.any_eq_true _ _).mp hchecked
  have hready : ((initial Config.default true ["a/A"]).steps (checking ++ refusal)).any (fun s =>
      s.attempt? .worker "a/A" =
        some (.ready (failure "a/A" (.noOutput "a/A")) (Duration.ofSeconds 1))) = true := by decide
  rw [steps_append, hs, Option.bind_some] at hready
  obtain ⟨s', hs', hready⟩ := (Option.any_eq_true _ _).mp hready
  have hready := of_decide_eq_true hready
  have hm := (task?_eq_some (of_decide_eq_true hchecked)).1
  obtain ⟨u, hu, hn, _, _, hsettles, _⟩ :=
    worker_settles_unless_creation_panics _ _ _ _ s hs _ hm rfl _ s' hs'
  have hwork : u.attempt? .worker =
      some (.ready (failure "a/A" (.noOutput "a/A")) (Duration.ofSeconds 1)) := by
    have hnodup := ((run_of_steps hs).append hs').sound.nodup
    rw [← attempt?_of_mem hnodup hu, hn, hready]
  obtain ⟨outcome, hone, rfl⟩ := hsettles _ (Work.settling_of_attempt? hwork)
  exact ⟨s, s', hs, hs', hready, hone⟩

/-- A creation that panics leaves its class to the timer. -/
theorem stranded_class_times_out :
    ∃ s s', (initial Config.default true ["a/A"]).steps checking = some s ∧
      s.task? "a/A" = some ⟨"a/A", .checked, .scheduled, false⟩ ∧
      s.steps (.equip "a/A" .panicked :: timeOut "a/A") = some s' ∧
      s'.task? "a/A" = some ⟨"a/A", .lost, .over, true⟩ ∧
      s'.settlement.ledger.results = [("a/A", .timedOut (Source.timeoutStub "a/A"))] := by
  have hchecked : ((initial Config.default true ["a/A"]).steps checking).any (fun s =>
      s.task? "a/A" = some ⟨"a/A", .checked, .scheduled, false⟩) = true := by decide
  obtain ⟨s, hs, hchecked⟩ := (Option.any_eq_true _ _).mp hchecked
  have hfinal : ((initial Config.default true ["a/A"]).steps
      (checking ++ .equip "a/A" .panicked :: timeOut "a/A")).any (fun s =>
        s.task? "a/A" = some ⟨"a/A", .lost, .over, true⟩ ∧
          s.settlement.ledger.results =
            [("a/A", .timedOut (Source.timeoutStub "a/A"))]) = true := by decide
  rw [steps_append, hs, Option.bind_some] at hfinal
  obtain ⟨s', hs', hfinal⟩ := (Option.any_eq_true _ _).mp hfinal
  obtain ⟨hlost, hresults⟩ := of_decide_eq_true hfinal
  exact ⟨s, s', hs, of_decide_eq_true hchecked, hs', hlost, hresults⟩

end System

end ClassBatch.Batch
