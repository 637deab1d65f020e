import ClassBatch.Proofs.Batch.Liveness
import ClassBatch.Proofs.Batch.Masking

/-! Reports on progress. They are made one at a time, by the winners in the order in which they won,
and what a callback does with them is nothing to the batch. -/

namespace ClassBatch.Batch

def Attempt.isUnreported : Attempt → Bool
  | .won _ _ | .entered _ => true
  | _ => false

lemma Attempt.holdsLock_of_isUnreported {attempt : Attempt} (h : attempt.isUnreported = true) :
    attempt.holdsLock = true := by
  cases attempt with
  | won _ _ | entered _ => rfl
  | _ => cases h

lemma Attempt.owesReport_of_isEntered {attempt : Attempt} (h : attempt.isEntered = true) :
    attempt.owesReport = true := by
  cases attempt with
  | entered _ => rfl
  | _ => cases h

lemma Attempt.holdsLock_of_isEntered {attempt : Attempt} (h : attempt.isEntered = true) :
    attempt.holdsLock = true := by
  cases attempt with
  | entered _ => rfl
  | _ => cases h

def Action.calm (action : Action) : Action :=
  match action with
  | .advance side name _ => .advance side name false
  | action => action

lemma Action.calm_eq_mask : Action.calm = Action.mask .calm := by
  funext action
  cases action <;> rfl

namespace System

def reporter? (s : System) : Action → Option (Side × String)
  | .advance side name _ =>
    match s.attempt? side name with
    | some (.entered _) => some (side, name)
    | _ => none
  | _ => none

def reporters (start : System) (actions : List Action) : List (Side × String) :=
  trace reporter? start actions

/-- The reports tell the durations in order, and whoever has won makes the next of them. -/
structure Reporting (s : System) (winners reporters : List (Side × String)) : Prop where
  reports : s.reports <+: reportsOf s.tasks.length s.settlement.ledger.durations
  entered : ∀ side name progress, s.attempt? side name = some (.entered progress) →
    progress = s.settlement.ledger.progress
  count : reporters.length = s.reports.length
  order : winners = reporters ∧
      (∀ side name attempt, s.attempt? side name = some attempt →
        attempt.isUnreported = false) ∨
    ∃ side name attempt, winners = reporters ++ [(side, name)] ∧
      s.attempt? side name = some attempt ∧ attempt.isUnreported = true

variable {s s' s₁ : System} {t : Task} {side : Side} {attempt attempt' : Attempt} {name : String}
  {action : Action} {winners reporters : List (Side × String)} {entries : List Entry}

lemma reportsOf_mono (total : Nat) (durations : List Duration) (duration : Duration) :
    reportsOf total durations <+: reportsOf total (durations ++ [duration]) := by
  rw [reportsOf_concat]
  exact List.prefix_append _ _

lemma reports_concat {l : Ledger} {total : Nat} {reports : List Progress}
    (h : l.FilledBy total entries) (hp : reports <+: reportsOf total l.durations)
    (hlen : l.completed = reports.length + 1) :
    reports ++ [l.progress] = reportsOf total l.durations := by
  have hdurations : l.durations.length = reports.length + 1 := h.durations_length.trans hlen
  obtain ⟨rest, hrest⟩ := hp
  obtain ⟨progress, rfl⟩ : ∃ progress, rest = [progress] := by
    have hlength := congrArg List.length hrest
    rw [List.length_append, reportsOf, List.length_map, List.length_range] at hlength
    exact List.length_eq_one_iff.mp (by omega)
  have hlast : (reportsOf total l.durations)[reports.length]? = some l.progress := by
    simp only [reportsOf, List.getElem?_map, hdurations, List.getElem?_range (Nat.lt_succ_self _),
      Option.map_some, Ledger.progress, Progress.of, hlen, h.total_eq]
    rw [List.take_of_length_le (by omega)]
  rw [← hrest, List.getElem?_concat_length, Option.some.injEq] at hlast
  rw [← hlast, hrest]

namespace Reporting

lemma untouched (h : s.Reporting winners reporters) (hu : Untouched s s') :
    s'.Reporting winners reporters := by
  refine ⟨?_, ?_, ?_, ?_⟩
  · rw [hu.reports, hu.settlement, ← List.length_map Task.name, hu.names, List.length_map]
    exact h.reports
  · intro side name progress ha
    rw [hu.settlement]
    exact h.entered side name progress (hu.attempt?_old ha nofun)
  · rw [hu.reports]
    exact h.count
  · refine h.order.imp (And.imp_right ?_) ?_
    · intro hnone side name attempt ha
      cases attempt with
      | won _ _ | entered _ => exact hnone side name _ (hu.attempt?_old ha nofun)
      | _ => rfl
    · rintro ⟨side, name, attempt, hw, ha, hunreported⟩
      exact ⟨side, name, attempt, hw, hu.attempt?_kept ha, hunreported⟩

section Advance

variable (h : s.Reporting winners reporters) (hs : (s.tasks.map Task.name).Nodup)
  (ht : t ∈ s.tasks) (ha : t.attempt? side = some attempt)

include hs ht ha

lemma sole {other : Side} {attempt'' : Attempt} (hd : s.Delivery)
    (hlock : attempt.holdsLock = true) (hx : s.attempt? other name = some attempt'')
    (hunreported : attempt''.isUnreported = true) : (other, name) = (side, t.name) :=
  have hself := (attempt?_of_mem hs ht side).trans ha
  sole_attempt hd.lock_le hself hx hlock (Attempt.holdsLock_of_isUnreported hunreported)

include h

lemma winners_eq (hd : s.Delivery) (hlock : attempt.holdsLock = true) :
    winners = reporters ++ if attempt.isUnreported then [(side, t.name)] else [] := by
  have hself := (attempt?_of_mem hs ht side).trans ha
  rcases h.order with ⟨hw, hnone⟩ | ⟨other, name, attempt'', hw, hx, hunreported⟩
  · rw [hnone side t.name attempt hself, hw, if_neg Bool.false_ne_true, List.append_nil]
  · obtain ⟨rfl, rfl⟩ := Prod.mk.inj (sole hs ht ha hd hlock hx hunreported)
    rw [hself] at hx
    cases hx
    rw [hw, if_pos hunreported]

lemma outside (h₁ : s₁.tasks = s.tasks) (hledger : s₁.settlement.ledger = s.settlement.ledger)
    (hreports : s₁.reports = s.reports) (hno : attempt.isUnreported = false)
    (hno' : attempt'.isUnreported = false) :
    (s₁.setTask (t.resume side attempt')).Reporting winners reporters := by
  have hself := (attempt?_of_mem hs ht side).trans ha
  refine ⟨?_, ?_, ?_, ?_⟩
  · rw [setTask_tasks, List.length_map, h₁]
    change s₁.reports <+: reportsOf _ s₁.settlement.ledger.durations
    rw [hreports, hledger]
    exact h.reports
  · intro other name progress hx
    change progress = s₁.settlement.ledger.progress
    rw [hledger]
    rcases resumed_cases hs ht h₁ hx with ⟨_, _, he⟩ | ⟨_, hx⟩
    · rw [← he] at hno'
      cases hno'
    · exact h.entered other name progress hx
  · change reporters.length = s₁.reports.length
    rw [hreports]
    exact h.count
  · refine h.order.imp (And.imp_right ?_) ?_
    · intro hnone other name attempt'' hx
      rcases resumed_cases hs ht h₁ hx with ⟨_, _, rfl⟩ | ⟨_, hx⟩
      · exact hno'
      · exact hnone other name attempt'' hx
    · rintro ⟨other, name, attempt'', hw, hx, hunreported⟩
      refine ⟨other, name, attempt'', hw, ?_, hunreported⟩
      rw [(resumed_of_ne hs ht h₁ ?_ attempt').1, hx]
      intro he
      obtain ⟨rfl, rfl⟩ := Prod.mk.inj he
      rw [hself] at hx
      cases hx
      rw [hno] at hunreported
      cases hunreported

omit h in
lemma inside {winners' reporters' : List (Side × String)} (hd : s.Delivery)
    (hlock : attempt.holdsLock = true) (h₁ : s₁.tasks = s.tasks)
    (hreports : s₁.reports <+: reportsOf s.tasks.length s₁.settlement.ledger.durations)
    (hentered : attempt'.isEntered = false ∨
      attempt' = .entered s₁.settlement.ledger.progress)
    (hcount : reporters'.length = s₁.reports.length)
    (horder : winners' = reporters' ++ if attempt'.isUnreported then [(side, t.name)] else []) :
    (s₁.setTask (t.resume side attempt')).Reporting winners' reporters' := by
  refine ⟨?_, ?_, hcount, ?_⟩
  · rw [setTask_tasks, List.length_map, h₁]
    exact hreports
  · intro other name progress hx
    rcases resumed_cases hs ht h₁ hx with ⟨_, _, rfl⟩ | ⟨hne, hx⟩
    · rcases hentered with hno | he
      · cases hno
      · exact Attempt.entered.inj he
    · exact absurd (sole hs ht ha hd hlock hx rfl) hne
  · cases hunreported : attempt'.isUnreported with
    | true =>
      rw [hunreported, if_pos rfl] at horder
      refine Or.inr ⟨side, t.name, attempt', horder, attempt?_resumed hs ht h₁ side ?_, hunreported⟩
      cases attempt' with
      | «over» settled => cases hunreported
      | _ => rfl
    | false =>
      rw [hunreported, if_neg Bool.false_ne_true, List.append_nil] at horder
      refine Or.inl ⟨horder, ?_⟩
      intro other name attempt'' hx
      rcases resumed_cases hs ht h₁ hx with ⟨_, _, rfl⟩ | ⟨hne, hx⟩
      · exact hunreported
      · exact Bool.eq_false_iff.mpr fun hu => hne (sole hs ht ha hd hlock hx hu)

lemma advance {panics : Bool} (hd : s.Delivery) (hagree : s.Agreement)
    (hfilled : s.settlement.ledger.FilledBy s.tasks.length entries)
    (hr : AttemptRule s t.name panics attempt attempt' s₁) :
    (s₁.setTask (t.resume side attempt')).Reporting
      (winners ++ (s.winner? (.advance side t.name panics)).toList)
      (reporters ++ (s.reporter? (.advance side t.name panics)).toList) := by
  have hself := (attempt?_of_mem hs ht side).trans ha
  have hwinners := h.winners_eq hs ht ha hd
  cases hr with
  | acquire outcome duration _ =>
    simp only [winner?, reporter?, hself, Option.toList_none, List.append_nil]
    exact h.outside hs ht ha rfl rfl rfl rfl rfl
  | win outcome duration hf =>
    simp only [winner?, reporter?, hself, hf, Bool.false_eq_true, if_false, Option.toList_some,
      Option.toList_none, List.append_nil]
    refine inside hs ht ha hd rfl rfl h.reports (Or.inl rfl) h.count ?_
    rw [hwinners rfl, List.append_assoc]
    rfl
  | lose outcome duration hf =>
    simp only [winner?, reporter?, hself, hf, if_true, Option.toList_none, List.append_nil]
    exact inside hs ht ha hd rfl rfl h.reports (Or.inl rfl) h.count (hwinners rfl)
  | enter outcome duration haccepts =>
    simp only [winner?, reporter?, hself, Option.toList_none, List.append_nil]
    refine inside hs ht ha hd rfl rfl ?_ (Or.inr rfl) h.count (hwinners rfl)
    exact h.reports.trans (reportsOf_mono _ _ _)
  | refuse outcome duration hf =>
    rw [hagree.accepts hself] at hf
    cases hf
  | report progress =>
    simp only [winner?, reporter?, hself, Option.toList_some, Option.toList_none, List.append_nil]
    refine inside hs ht ha hd rfl rfl ?_ (Or.inl rfl) ?_ ?_
    · -- The lock leaves no other outcome that is entered and not reported.
      have hone : s.tally Attempt.isEntered = 1 := by
        have hpos := tally_pos hs hself (p := Attempt.isEntered) rfl
        have hle : s.tally Attempt.isEntered ≤ s.tally Attempt.holdsLock :=
          tally_mono fun _ => Attempt.holdsLock_of_isEntered
        have hlock := hd.lock_le
        omega
      have hbegun := hd.begun
      rw [hone] at hbegun
      change s.reports ++ [progress] <+: _
      rw [h.entered side t.name progress hself, reports_concat hfilled h.reports hbegun]
    · change (reporters ++ [(side, t.name)]).length = (s.reports ++ [progress]).length
      rw [List.length_append, List.length_append, h.count]
      rfl
    · rw [hwinners rfl]
      exact (List.append_nil _).symm
  | finish =>
    simp only [winner?, reporter?, hself, Option.toList_none, List.append_nil]
    exact inside hs ht ha hd rfl rfl h.reports (Or.inl rfl) h.count (hwinners rfl)
  | release =>
    simp only [winner?, reporter?, hself, Option.toList_none, List.append_nil]
    exact inside hs ht ha hd rfl rfl h.reports (Or.inl rfl) h.count (hwinners rfl)
  | tell _ =>
    simp only [winner?, reporter?, hself, Option.toList_none, List.append_nil]
    exact h.outside hs ht ha s.tell_tasks (congrArg Settlement.ledger s.tell_settlement)
      s.tell_reports rfl rfl

end Advance

lemma step (h : s.Reporting winners reporters) (hd : s.Delivery) (hagree : s.Agreement)
    (hfilled : s.settlement.ledger.FilledBy s.tasks.length entries)
    (hs : (s.tasks.map Task.name).Nodup) (hstep : s.step action = some s') :
    s'.Reporting (winners ++ (s.winner? action).toList)
      (reporters ++ (s.reporter? action).toList) := by
  cases effect_of_step hs hstep with
  | aside hn hu =>
    have hnone : s.reporter? action = none := by
      cases action with
      | advance side name panics => exact absurd rfl (hn side name panics)
      | _ => rfl
    rw [(no_event (s := s) hn).1, hnone, Option.toList_none, List.append_nil, List.append_nil]
    exact h.untouched hu
  | advance ht hact ha hr hs' =>
    subst hact
    exact hs' ▸ h.advance hs ht ha hd hagree hfilled hr

lemma initial (config : Config) (fresh : Bool) (names : List String) :
    (System.initial config fresh names).Reporting [] [] := by
  have hnone (side : Side) (name : String) := (attempt?_initial config fresh names side name).1
  refine ⟨List.nil_prefix, ?_, rfl, Or.inl ⟨rfl, ?_⟩⟩
  · intro side name progress hx
    rw [hnone] at hx
    cases hx
  · intro side name attempt hx
    rw [hnone] at hx
    cases hx

end Reporting

section Reachable

variable {config : Config} {fresh : Bool} {names : List String} {actions : List Action}

lemma Run.reporting (h : Run (initial config fresh names) actions s) :
    s.Reporting (System.winners (initial config fresh names) actions)
      (System.reporters (initial config fresh names) actions) := by
  induction h with
  | nil => exact Reporting.initial config fresh names
  | concat hrun hstep ih =>
    have hsound := hrun.sound
    rw [System.winners, System.reporters, hrun.trace_concat, hrun.trace_concat]
    exact ih.step hsound.delivery hsound.agreement hrun.history.ledger hsound.nodup hstep

lemma Delivery.returned_of_entered {progress : Progress} (hd : s.Delivery)
    (hs : (s.tasks.map Task.name).Nodup) (ha : s.attempt? side name = some (.entered progress)) :
    s.returned = s.reports.length := by
  have hentered := tally_pos hs ha (p := Attempt.isEntered) rfl
  have hle : s.tally Attempt.isEntered ≤ s.tally Attempt.owesReport :=
    tally_mono fun _ => Attempt.owesReport_of_isEntered
  have howed := hd.owed_le
  have hbegun := hd.begun
  have hreturned := hd.returned
  omega

lemma Run.report_step (h : Run (initial config fresh names) actions s)
    (hstep : s.step action = some s') :
    s'.reports = s.reports ∨ s.returned = s.reports.length ∧
      ∃ side name panics progress, action = .advance side name panics ∧
        (side, name) ∈ System.winners (initial config fresh names) actions ∧
        s'.reports = s.reports ++ [progress] := by
  have hsound := h.sound
  have hs := hsound.nodup
  cases effect_of_step hs hstep with
  | aside _ hu => exact Or.inl hu.reports
  | @advance t side panics _ _ _ ht hact ha hr hs' =>
    subst hs'
    cases hr with
    | report progress =>
      have hwinners := h.reporting.winners_eq hs ht ha hsound.delivery rfl
      have hself := (attempt?_of_mem hs ht side).trans ha
      refine Or.inr ⟨hsound.delivery.returned_of_entered hs hself, side, t.name, panics, progress,
        hact, ?_, rfl⟩
      rw [hwinners]
      exact List.mem_append_right _ List.mem_cons_self
    | tell _ => exact Or.inl s.tell_reports
    | _ => exact Or.inl rfl

/-- Reports on progress are made one at a time by the winners, in the order in which they won. They
count up from one, each with the time left as the durations so far tell it. Whether a callback
panics makes no difference to the batch. -/
theorem reports_in_order (config : Config) (fresh : Bool) (names : List String)
    (actions : List Action) (s : System)
    (h : (initial config fresh names).steps actions = some s) :
    let start := initial config fresh names
    let total := (Names.sorted names).length
    let durations := s.settlement.ledger.durations
    (∀ k (hk : k < s.reports.length), s.reports[k] =
      ⟨k + 1, total, estimateRemaining (durations.take (k + 1)) (total - (k + 1))⟩) ∧
    s.reports.length ≤ durations.length ∧ durations.length ≤ s.reports.length + 1 ∧
    s.returned ≤ s.reports.length ∧ s.reports.length ≤ s.returned + 1 ∧
    (∀ action s', s.step action = some s' →
      s'.reports = s.reports ∨ s.returned = s.reports.length ∧
        ∃ side name panics progress, action = .advance side name panics ∧
          (side, name) ∈ System.winners start actions ∧ s'.reports = s.reports ++ [progress]) ∧
    System.reporters start actions <+: System.winners start actions ∧
    (System.reporters start actions).length = s.reports.length ∧
    ((System.winners start actions).map Prod.snd).Nodup ∧
    start.steps (actions.map Action.calm) = some { s with panics := 0 } ∧
    (∀ later, { s with panics := 0 }.steps (later.map Action.calm) =
      (s.steps later).map fun s' => { s' with panics := 0 }) ∧
    ∃ later s' ending, s.steps later = some s' ∧ s'.watch = .over ending ∧
      (s.abortRequested = false → s.phase ≠ .aborted → s'.phase = .completed) := by
  intro start total durations
  have hrun := run_of_steps h
  have hsound := hrun.sound
  have hdelivery := hsound.delivery
  have hreporting := hrun.reporting
  have htotal : s.tasks.length = total := by
    rw [← List.length_map Task.name, hsound.names]
  have hdurations : durations.length = s.settlement.ledger.completed :=
    hrun.history.ledger.durations_length
  have hbegun := hdelivery.begun
  have hreturned := hdelivery.returned
  have howed := hdelivery.owed_le
  have hentered : s.tally Attempt.isEntered ≤ s.tally Attempt.owesReport :=
    tally_mono fun _ => Attempt.owesReport_of_isEntered
  refine ⟨?_, by omega, by omega, by omega, by omega, fun _ _ => hrun.report_step, ?_,
    hreporting.count, hrun.winners_nodup, ?_, ?_, exists_ending hrun⟩
  · intro k hk
    rw [hreporting.reports.getElem hk]
    simp only [reportsOf, List.getElem_map, List.getElem_range, htotal]
    rfl
  · rcases hreporting.order with ⟨hw, _⟩ | ⟨side, name, _, hw, _⟩
    · exact hw ▸ List.prefix_refl _
    · exact hw ▸ List.prefix_append _ _
  · have hcalm := steps_calm start actions
    rw [h] at hcalm
    rw [Action.calm_eq_mask]
    exact hcalm
  · rw [Action.calm_eq_mask]
    exact steps_calm s

end Reachable

def unruly : List Action :=
  [.submit "a/A", .schedule "a/A", .submit "b/B", .schedule "b/B", .launch, .take "b/B",
    .check "b/B", .equip "b/B" .made, .call "b/B", .reply "b/B" (.source "class B {}"),
    .time "b/B" (Duration.ofSeconds 1), .fire "a/A", .advance .worker "b/B" false,
    .advance .worker "b/B" false, .advance .worker "b/B" false, .advance .worker "b/B" false,
    .advance .worker "b/B" true, .advance .worker "b/B" false, .advance .timer "a/A" false,
    .advance .timer "a/A" false, .advance .timer "a/A" false, .advance .timer "a/A" false]

theorem reports_in_order_of_unruly :
    ∃ s, (initial Config.default false ["b/B", "a/A"]).steps unruly = some s ∧ s.panics = 1 ∧
      s.reports.map Progress.completed = [1, 2] ∧
      System.reporters (initial Config.default false ["b/B", "a/A"]) unruly =
        [(.worker, "b/B"), (.timer, "a/A")] ∧
      (initial Config.default false ["b/B", "a/A"]).steps (unruly.map Action.calm) =
        some { s with panics := 0 } := by
  have hfinal : ((initial Config.default false ["b/B", "a/A"]).steps unruly).any (fun s =>
      s.panics = 1 ∧ s.reports.map Progress.completed = [1, 2]) = true := by decide
  obtain ⟨s, hs, hfinal⟩ := (Option.any_eq_true _ _).mp hfinal
  obtain ⟨hpanics, hreports⟩ := of_decide_eq_true hfinal
  obtain ⟨_, _, _, _, _, _, _, _, _, hcalm, _⟩ := reports_in_order _ _ _ _ s hs
  exact ⟨s, hs, hpanics, hreports, by decide, hcalm⟩

end System

end ClassBatch.Batch
