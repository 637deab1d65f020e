import ClassBatch.Proofs.Batch.Records
import ClassBatch.Proofs.Batch.Settling

/-! Who wins a task. The winners of a run are those who raise a flag, and what they enter makes up
the ledger. -/

namespace ClassBatch.Batch.System

def winner? (s : System) : Action → Option (Side × String)
  | .advance side name _ =>
    match s.attempt? side name with
    | some (.holding _ _) => if s.settlement.isSettled name then none else some (side, name)
    | _ => none
  | _ => none

def entered? (s : System) : Action → Option Entry
  | .advance side name _ =>
    match s.attempt? side name with
    | some (.won outcome duration) =>
      if s.settlement.ledger.accepts name then some ⟨name, outcome, duration⟩ else none
    | _ => none
  | _ => none

def winners (start : System) (actions : List Action) : List (Side × String) :=
  trace winner? start actions

def entries (start : System) (actions : List Action) : List Entry :=
  trace entered? start actions

/-- What a run has left behind of its winners and of what they entered. -/
structure History (s : System) (winners : List (Side × String)) (entries : List Entry) : Prop where
  flags : winners.map Prod.snd = s.settlement.flags.reverse
  ledger : s.settlement.ledger.FilledBy s.tasks.length entries
  won : ∀ side name outcome duration, s.attempt? side name = some (.won outcome duration) →
    (side, name) ∈ winners

variable {s s' s₁ start : System} {t : Task} {side : Side} {attempt attempt' : Attempt}
  {action : Action} {actions : List Action} {winners : List (Side × String)} {entries : List Entry}

lemma no_event (h : ∀ side name panics, action ≠ .advance side name panics) :
    s.winner? action = none ∧ s.entered? action = none := by
  cases action with
  | advance side name panics => exact absurd rfl (h side name panics)
  | _ => exact ⟨rfl, rfl⟩

section Event

variable {panics : Bool} (hself : s.attempt? side t.name = some attempt)
  (hr : AttemptRule s t.name panics attempt attempt' s₁)

include hself hr

lemma flags_of_rule : s₁.settlement.flags =
    (s.winner? (.advance side t.name panics)).toList.map Prod.snd ++ s.settlement.flags := by
  cases hr with
  | win outcome duration hf =>
    simp only [winner?, hself, hf, Bool.false_eq_true, if_false]
    rfl
  | lose outcome duration hf =>
    simp only [winner?, hself, hf, if_true]
    rfl
  | tell _ =>
    simp only [winner?, hself, tell_settlement]
    rfl
  | _ =>
    simp only [winner?, hself]
    rfl

lemma filledBy_of_rule {total : Nat} (h : s.settlement.ledger.FilledBy total entries) :
    s₁.settlement.ledger.FilledBy total
      (entries ++ (s.entered? (.advance side t.name panics)).toList) := by
  cases hr with
  | enter outcome duration hf =>
    simp only [entered?, hself, hf, if_true]
    exact h.enter outcome duration hf
  | refuse outcome duration hf =>
    simp only [entered?, hself, hf, Bool.false_eq_true, if_false, Option.toList_none,
      List.append_nil]
    exact h
  | tell _ =>
    simp only [entered?, hself, tell_settlement, Option.toList_none, List.append_nil]
    exact h
  | _ =>
    simp only [entered?, hself, Option.toList_none, List.append_nil]
    exact h

lemma winner_of_rule {outcome : Outcome} {duration : Duration}
    (hw : attempt' = .won outcome duration) :
    s.winner? (.advance side t.name panics) = some (side, t.name) := by
  cases hr with
  | win outcome duration hf => simp only [winner?, hself, hf, Bool.false_eq_true, if_false]
  | _ => cases hw

end Event

namespace History

lemma untouched (h : s.History winners entries) (hu : Untouched s s') :
    s'.History winners entries := by
  refine ⟨?_, ?_, ?_⟩
  · rw [hu.settlement, h.flags]
  · rw [hu.settlement, ← List.length_map Task.name, hu.names, List.length_map]
    exact h.ledger
  · intro side name outcome duration hw
    rcases hu.attempt?_eq side name with he | ⟨_, _, _, hr⟩
    · exact h.won side name outcome duration (he ▸ hw)
    · rw [hr] at hw
      cases hw

lemma advance {panics : Bool} (h : s.History winners entries)
    (hs : (s.tasks.map Task.name).Nodup) (ht : t ∈ s.tasks) (ha : t.attempt? side = some attempt)
    (hr : AttemptRule s t.name panics attempt attempt' s₁) :
    (s₁.setTask (t.resume side attempt')).History
      (winners ++ (s.winner? (.advance side t.name panics)).toList)
      (entries ++ (s.entered? (.advance side t.name panics)).toList) := by
  have hself := (attempt?_of_mem hs ht side).trans ha
  refine ⟨?_, ?_, ?_⟩
  · change _ = s₁.settlement.flags.reverse
    rw [flags_of_rule hself hr, List.map_append, h.flags, List.reverse_append]
    cases s.winner? (.advance side t.name panics) <;> rfl
  · rw [setTask_tasks, List.length_map, hr.tasks]
    exact filledBy_of_rule hself hr h.ledger
  · intro other name outcome duration hw
    rcases resumed_cases hs ht hr.tasks hw with ⟨rfl, rfl, he⟩ | ⟨_, hw⟩
    · rw [winner_of_rule hself hr he.symm]
      exact List.mem_append_right _ List.mem_cons_self
    · exact List.mem_append_left _ (h.won other name outcome duration hw)

lemma step (h : s.History winners entries) (hs : (s.tasks.map Task.name).Nodup)
    (hstep : s.step action = some s') :
    s'.History (winners ++ (s.winner? action).toList) (entries ++ (s.entered? action).toList) := by
  cases effect_of_step hs hstep with
  | aside hn hu =>
    obtain ⟨hw, he⟩ := no_event (s := s) hn
    rw [hw, he, Option.toList_none, Option.toList_none, List.append_nil, List.append_nil]
    exact h.untouched hu
  | advance ht hact ha hr hs' =>
    subst hact
    exact hs' ▸ h.advance hs ht ha hr

lemma initial (config : Config) (fresh : Bool) (names : List String) :
    (System.initial config fresh names).History [] [] := by
  refine ⟨rfl, ?_, ?_⟩
  · rw [System.initial, List.length_map]
    exact .empty _
  · intro side name outcome duration hw
    rw [(attempt?_initial config fresh names side name).1] at hw
    cases hw

end History

lemma names_step (hs : (s.tasks.map Task.name).Nodup) (hstep : s.step action = some s') :
    s'.tasks.map Task.name = s.tasks.map Task.name := by
  cases effect_of_step hs hstep with
  | aside _ hu => exact hu.names
  | advance _ _ _ hr hs' => rw [hs', setTask_names, hr.tasks]

structure Sound (s : System) (names : List String) : Prop where
  names : s.tasks.map Task.name = Names.sorted names
  delivery : s.Delivery
  agreement : s.Agreement

lemma Sound.nodup {names : List String} (h : s.Sound names) : (s.tasks.map Task.name).Nodup :=
  h.names ▸ (Names.sorted_ordered names).nodup

section Reachable

variable {config : Config} {fresh : Bool} {names : List String}

lemma Run.sound (h : Run (initial config fresh names) actions s) : s.Sound names := by
  induction h with
  | nil =>
    refine ⟨?_, Delivery.initial config fresh names, Agreement.initial config fresh names⟩
    rw [initial, List.map_map]
    exact List.map_id _
  | concat _ hstep ih =>
    have hs := ih.nodup
    exact ⟨(names_step hs hstep).trans ih.names, ih.delivery.step hs hstep,
      ih.agreement.step ih.delivery hs hstep⟩

lemma Run.history (h : Run (initial config fresh names) actions s) :
    s.History (System.winners (initial config fresh names) actions)
      (System.entries (initial config fresh names) actions) := by
  induction h with
  | nil => exact History.initial config fresh names
  | concat hrun hstep ih =>
    rw [System.winners, System.entries, hrun.trace_concat, hrun.trace_concat]
    exact ih.step hrun.sound.nodup hstep

lemma Run.winners_nodup (h : Run (initial config fresh names) actions s) :
    ((System.winners (initial config fresh names) actions).map Prod.snd).Nodup := by
  rw [h.history.flags]
  exact List.nodup_reverse.mpr h.sound.agreement.nodup

lemma Sound.keys_subset (h : s.Sound names) :
    Names.keys s.settlement.ledger.results ⊆ Names.sorted names := by
  rw [← h.names]
  exact List.Subset.trans h.agreement.flagged h.agreement.tasks

lemma Sound.keys_of_ended (h : s.Sound names)
    (he : ∀ name ∈ names, ∃ side, s.hasEnded side name = true) :
    Names.keys s.settlement.ledger.results = Names.sorted names := by
  apply h.agreement.ordered.eq_of_mem_iff (Names.sorted_ordered names)
  intro name
  refine ⟨fun hk => h.keys_subset hk, ?_⟩
  intro hn
  obtain ⟨side, hside⟩ := he name (Names.mem_sorted.mp hn)
  exact h.agreement.ended side name hside

lemma Sound.isComplete_of_keys (h : s.Sound names)
    (hk : Names.keys s.settlement.ledger.results = Names.sorted names) :
    s.settlement.ledger.isComplete = true := by
  rw [Ledger.isComplete_iff, h.agreement.total, ← List.length_map Task.name, h.names, ← hk,
    Names.keys, List.length_map]
  rfl

lemma Sound.keys_of_isComplete (h : s.Sound names)
    (hc : s.settlement.ledger.isComplete = true) :
    Names.keys s.settlement.ledger.results = Names.sorted names := by
  have hsub := h.keys_subset
  have hlength : (Names.sorted names).length ≤ (Names.keys s.settlement.ledger.results).length := by
    rw [← h.names, List.length_map, ← h.agreement.total, ← Ledger.isComplete_iff.mp hc,
      Names.keys, List.length_map]
    exact le_refl _
  have hperm := (List.subperm_of_subset h.agreement.ordered.nodup hsub).perm_of_length_le hlength
  exact h.agreement.ordered.eq_of_mem_iff (Names.sorted_ordered names) fun _ => hperm.mem_iff

/-- Of the attempts at a task exactly one wins, its outcome is never refused, and nobody else
touches the ledger. -/
theorem settled_exactly_once (config : Config) (fresh : Bool) (names : List String)
    (actions : List Action) (s : System)
    (h : (initial config fresh names).steps actions = some s) :
    let winners := System.winners (initial config fresh names) actions
    (winners.map Prod.snd).Nodup ∧
    (∀ side name, s.hasEnded side name = true →
      (∃ winner, (winner, name) ∈ winners) ∧ name ∈ Names.keys s.settlement.ledger.results) ∧
    (∀ winner name, (winner, name) ∈ winners →
      name ∈ Names.keys s.settlement.ledger.results ∨
        ∃ outcome duration, s.attempt? winner name = some (.won outcome duration)) ∧
    (∀ side name outcome duration, s.attempt? side name = some (.won outcome duration) →
      (side, name) ∈ winners ∧ name ∉ Names.keys s.settlement.ledger.results ∧
        s.settlement.ledger.results.length < s.settlement.ledger.total ∧
        (s.settlement.record name outcome duration).1.isSome = true) ∧
    (∀ action s', s.step action = some s' →
      s'.settlement.ledger = s.settlement.ledger ∨
        ∃ side name panics outcome duration, action = .advance side name panics ∧
          (side, name) ∈ winners ∧ s.attempt? side name = some (.won outcome duration) ∧
          s'.settlement.ledger = s.settlement.ledger.enter name outcome duration) ∧
    ((∀ name ∈ names, ∃ side, s.hasEnded side name = true) →
      s.settlement.ledger.isComplete = true ∧
        (Names.keys s.settlement.ledger.results).Nodup ∧
        ∀ name, name ∈ Names.keys s.settlement.ledger.results ↔ name ∈ names) := by
  intro winners
  have hrun := run_of_steps h
  have hsound := hrun.sound
  have hhistory := hrun.history
  have hagree := hsound.agreement
  have hflags {name : String} : name ∈ s.settlement.flags ↔ ∃ winner, (winner, name) ∈ winners := by
    rw [← List.mem_reverse, ← hhistory.flags]
    simp only [winners, List.mem_map, Prod.exists, exists_eq_right]
  have hnodup : (winners.map Prod.snd).Nodup := by
    rw [hhistory.flags]
    exact List.nodup_reverse.mpr hagree.nodup
  refine ⟨hnodup, ?_, ?_, ?_, ?_, ?_⟩
  · intro side name he
    have hk := hagree.ended side name he
    exact ⟨hflags.mp (hagree.flagged hk), hk⟩
  · intro winner name hw
    refine (hagree.pending name (hflags.mpr ⟨winner, hw⟩)).imp_right ?_
    rintro ⟨side, outcome, duration, ha⟩
    -- Whoever is about to enter has won, and no name is won twice.
    have heq := List.inj_on_of_nodup_map hnodup (hhistory.won side name outcome duration ha) hw rfl
    exact ⟨outcome, duration, (Prod.mk.inj heq).1 ▸ ha⟩
  · intro side name outcome duration ha
    have hacc := hagree.accepts ha
    obtain ⟨hk, hroom⟩ := Ledger.accepts_iff.mp hacc
    refine ⟨hhistory.won side name outcome duration ha, hk, hroom, ?_⟩
    rw [Settlement.record_isSome, hacc]
  · intro action s' hstep
    refine (ledger_step hsound.nodup hstep).imp_right ?_
    rintro ⟨side, name, panics, outcome, duration, hact, ha, hl⟩
    exact ⟨side, name, panics, outcome, duration, hact,
      hhistory.won side name outcome duration ha, ha, hl⟩
  · intro he
    have hkeys := hsound.keys_of_ended he
    refine ⟨hsound.isComplete_of_keys hkeys, hagree.ordered.nodup, ?_⟩
    intro name
    rw [hkeys, Names.mem_sorted]

end Reachable

def race : List Action :=
  [.submit "a/A", .schedule "a/A", .launch, .take "a/A", .check "a/A", .equip "a/A" .made,
    .call "a/A", .reply "a/A" (.source "class A {}"), .time "a/A" (Duration.ofSeconds 1),
    .fire "a/A", .advance .timer "a/A" false, .advance .timer "a/A" false,
    .advance .timer "a/A" false, .advance .timer "a/A" true, .advance .timer "a/A" true,
    .advance .timer "a/A" false, .advance .worker "a/A" false, .advance .worker "a/A" false,
    .advance .timer "a/A" false]

theorem settled_exactly_once_in_race :
    ∃ s, (initial Config.default true ["a/A", "a/A"]).steps race = some s ∧
      System.winners (initial Config.default true ["a/A", "a/A"]) race = [(.timer, "a/A")] ∧
      (∀ name ∈ ["a/A", "a/A"], ∃ side, s.hasEnded side name = true) ∧
      s.settlement.ledger.isComplete = true := by
  obtain ⟨s, hs⟩ : ∃ s, (initial Config.default true ["a/A", "a/A"]).steps race = some s :=
    Option.isSome_iff_exists.mp (by decide)
  have hworker : s.hasEnded .worker "a/A" = true := by
    have h : ((initial Config.default true ["a/A", "a/A"]).steps race).any
        (fun s => s.hasEnded .worker "a/A") = true := by decide
    rwa [hs] at h
  have he : ∀ name ∈ ["a/A", "a/A"], ∃ side, s.hasEnded side name = true := by
    intro name hn
    have hname : name = "a/A" := by simpa using hn
    exact ⟨.worker, hname ▸ hworker⟩
  obtain ⟨_, _, _, _, _, hcomplete⟩ := settled_exactly_once Config.default true _ race s hs
  exact ⟨s, hs, by decide, he, (hcomplete he).1⟩

end ClassBatch.Batch.System
