import ClassBatch.Proofs.Batch.Delivery

/-! Flags and the ledger. A flag that is raised stands for an entry that is made or about to be made
under the delivery lock, so that no entry is ever refused. -/

namespace ClassBatch.Batch

def Attempt.isRecorded : Attempt → Bool
  | .entered _ | .reporting | .reported | .telling => true
  | _ => false

namespace System

variable {s s' s₁ : System} {t : Task} {side : Side} {attempt attempt' : Attempt} {name : String}
  {action : Action}

structure Agreement (s : System) : Prop where
  total : s.settlement.ledger.total = s.tasks.length
  ordered : Names.Ordered (Names.keys s.settlement.ledger.results)
  nodup : s.settlement.flags.Nodup
  tasks : s.settlement.flags ⊆ s.tasks.map Task.name
  flagged : Names.keys s.settlement.ledger.results ⊆ s.settlement.flags
  pending : ∀ name ∈ s.settlement.flags, name ∈ Names.keys s.settlement.ledger.results ∨
    ∃ side outcome duration, s.attempt? side name = some (.won outcome duration)
  won : ∀ side name outcome duration, s.attempt? side name = some (.won outcome duration) →
    name ∈ s.settlement.flags ∧ name ∉ Names.keys s.settlement.ledger.results
  recorded : ∀ side name attempt, s.attempt? side name = some attempt →
    attempt.isRecorded = true → name ∈ Names.keys s.settlement.ledger.results
  ended : ∀ side name, s.hasEnded side name = true →
    name ∈ Names.keys s.settlement.ledger.results

namespace Agreement

lemma accepts {outcome : Outcome} {duration : Duration} (h : s.Agreement)
    (ha : s.attempt? side name = some (.won outcome duration)) :
    s.settlement.ledger.accepts name = true := by
  obtain ⟨hf, hk⟩ := h.won side name outcome duration ha
  refine Ledger.accepts_iff.mpr ⟨hk, ?_⟩
  -- The classes with a result and this one are all among the tasks.
  have hnodup : (name :: Names.keys s.settlement.ledger.results).Nodup :=
    List.nodup_cons.mpr ⟨hk, h.ordered.nodup⟩
  have hsub : name :: Names.keys s.settlement.ledger.results ⊆ s.tasks.map Task.name :=
    List.cons_subset.mpr ⟨h.tasks hf, List.Subset.trans h.flagged h.tasks⟩
  have hle := (List.subperm_of_subset hnodup hsub).length_le
  rw [List.length_cons, Names.keys, List.length_map, List.length_map, ← h.total] at hle
  exact hle

lemma untouched (h : s.Agreement) (hu : Untouched s s') : s'.Agreement := by
  obtain ⟨h₁, h₂, h₃, h₄, h₅, h₆, h₇, h₈, h₉⟩ := h
  refine ⟨?_, ?_, ?_, ?_, ?_, ?_, ?_, ?_, ?_⟩ <;> rw [hu.settlement]
  · rw [h₁, ← List.length_map Task.name, ← hu.names, List.length_map]
  · exact h₂
  · exact h₃
  · rw [hu.names]
    exact h₄
  · exact h₅
  · intro name hn
    refine (h₆ name hn).imp_right ?_
    rintro ⟨side, outcome, duration, ha⟩
    exact ⟨side, outcome, duration, hu.attempt?_kept ha⟩
  · intro side name outcome duration ha
    exact h₇ side name outcome duration (hu.attempt?_old ha nofun)
  · intro side name attempt ha hr
    exact h₈ side name attempt (hu.attempt?_old ha (by rintro _ _ rfl; cases hr)) hr
  · intro side name he
    exact h₉ side name (by rw [← hu.hasEnded_eq, he])

section Advance

variable (h : s.Agreement) (hs : (s.tasks.map Task.name).Nodup) (ht : t ∈ s.tasks)

include h hs ht

lemma win (outcome : Outcome) (duration : Duration) (h₁ : s₁.tasks = s.tasks)
    (h₂ : s₁.settlement = { s.settlement with flags := t.name :: s.settlement.flags })
    (hf : s.settlement.isSettled t.name = false) :
    (s₁.setTask (t.resume side (.won outcome duration))).Agreement := by
  have hnew : t.name ∉ s.settlement.flags := by
    simpa only [Settlement.isSettled, List.contains_eq_mem, decide_eq_false_iff_not] using hf
  have hsettlement : (s₁.setTask (t.resume side (.won outcome duration))).settlement =
      { s.settlement with flags := t.name :: s.settlement.flags } := h₂
  have hnames : (s₁.setTask (t.resume side (.won outcome duration))).tasks.map Task.name =
      s.tasks.map Task.name := by rw [setTask_names, h₁]
  refine ⟨?_, ?_, ?_, ?_, ?_, ?_, ?_, ?_, ?_⟩ <;> rw [hsettlement]
  · rw [← List.length_map Task.name, hnames, List.length_map]
    exact h.total
  · exact h.ordered
  · exact List.nodup_cons.mpr ⟨hnew, h.nodup⟩
  · rw [hnames]
    exact List.cons_subset.mpr ⟨List.mem_map_of_mem ht, h.tasks⟩
  · exact List.Subset.trans h.flagged (List.subset_cons_self _ _)
  · intro name hn
    by_cases hname : name = t.name
    · subst hname
      exact Or.inr ⟨side, outcome, duration, attempt?_resumed hs ht h₁ side rfl⟩
    · refine (h.pending name ((List.mem_cons.mp hn).resolve_left hname)).imp_right ?_
      rintro ⟨other, outcome', duration', hw⟩
      refine ⟨other, outcome', duration', ?_⟩
      rw [(resumed_of_ne hs ht h₁ ?_ _).1, hw]
      exact fun he => hname (Prod.mk.inj he).2
  · intro other name outcome' duration' hw
    rcases resumed_cases hs ht h₁ hw with ⟨_, rfl, _⟩ | ⟨_, hw⟩
    · exact ⟨List.mem_cons_self, fun hk => hnew (h.flagged hk)⟩
    · exact (h.won other name outcome' duration' hw).imp_left (List.mem_cons_of_mem _)
  · intro other name attempt' hw hr
    rcases resumed_cases hs ht h₁ hw with ⟨_, _, rfl⟩ | ⟨_, hw⟩
    · cases hr
    · exact h.recorded other name attempt' hw hr
  · intro other name he
    rcases ended_cases hs ht h₁ he with ⟨_, _, ho⟩ | he
    · cases ho
    · exact h.ended other name he

variable (ha : t.attempt? side = some attempt)

include ha

lemma carry (h₁ : s₁.tasks = s.tasks) (h₂ : s₁.settlement = s.settlement)
    (hwon : ∀ outcome duration, attempt ≠ .won outcome duration)
    (hwon' : ∀ outcome duration, attempt' ≠ .won outcome duration)
    (hkeys : attempt'.isRecorded = true ∨ attempt'.isOver = true →
      t.name ∈ Names.keys s.settlement.ledger.results) :
    (s₁.setTask (t.resume side attempt')).Agreement := by
  have hself := attempt?_of_mem hs ht side
  have hsettlement : (s₁.setTask (t.resume side attempt')).settlement = s.settlement := h₂
  have hnames : (s₁.setTask (t.resume side attempt')).tasks.map Task.name =
      s.tasks.map Task.name := by rw [setTask_names, h₁]
  refine ⟨?_, ?_, ?_, ?_, ?_, ?_, ?_, ?_, ?_⟩ <;> rw [hsettlement]
  · rw [h.total, ← List.length_map Task.name, ← hnames, List.length_map]
  · exact h.ordered
  · exact h.nodup
  · rw [hnames]
    exact h.tasks
  · exact h.flagged
  · intro name hn
    refine (h.pending name hn).imp_right ?_
    rintro ⟨other, outcome, duration, hw⟩
    refine ⟨other, outcome, duration, ?_⟩
    rw [(resumed_of_ne hs ht h₁ ?_ attempt').1, hw]
    intro he
    obtain ⟨rfl, rfl⟩ := Prod.mk.inj he
    rw [hself, ha] at hw
    exact hwon outcome duration (Option.some.inj hw)
  · intro other name outcome duration hw
    rcases resumed_cases hs ht h₁ hw with ⟨_, _, hw⟩ | ⟨_, hw⟩
    · exact absurd hw.symm (hwon' outcome duration)
    · exact h.won other name outcome duration hw
  · intro other name attempt'' hw hr
    rcases resumed_cases hs ht h₁ hw with ⟨_, rfl, rfl⟩ | ⟨_, hw⟩
    · exact hkeys (Or.inl hr)
    · exact h.recorded other name attempt'' hw hr
  · intro other name he
    rcases ended_cases hs ht h₁ he with ⟨_, rfl, ho⟩ | he
    · exact hkeys (Or.inr ho)
    · exact h.ended other name he

lemma enter {outcome : Outcome} {duration : Duration} (progress : Progress) (hd : s.Delivery)
    (hw : attempt = .won outcome duration) (h₁ : s₁.tasks = s.tasks)
    (h₂ : s₁.settlement = { s.settlement with
      ledger := s.settlement.ledger.enter t.name outcome duration }) :
    (s₁.setTask (t.resume side (.entered progress))).Agreement := by
  subst hw
  have hself := (attempt?_of_mem hs ht side).trans ha
  obtain ⟨hflag, hnew⟩ := h.won side t.name outcome duration hself
  have hsettlement : (s₁.setTask (t.resume side (.entered progress))).settlement =
      { s.settlement with ledger := s.settlement.ledger.enter t.name outcome duration } := h₂
  have hnames : (s₁.setTask (t.resume side (.entered progress))).tasks.map Task.name =
      s.tasks.map Task.name := by rw [setTask_names, h₁]
  have hkeys : Names.keys (s.settlement.ledger.enter t.name outcome duration).results =
      Names.insert t.name (Names.keys s.settlement.ledger.results) := Names.keys_put _ _ _
  have hmine : t.name ∈ Names.insert t.name (Names.keys s.settlement.ledger.results) :=
    Names.mem_insert.mpr (Or.inl rfl)
  have hold {name : String} (hk : name ∈ Names.keys s.settlement.ledger.results) :
      name ∈ Names.insert t.name (Names.keys s.settlement.ledger.results) :=
    Names.mem_insert.mpr (Or.inr hk)
  refine ⟨?_, ?_, ?_, ?_, ?_, ?_, ?_, ?_, ?_⟩ <;> simp only [hsettlement, hkeys]
  · rw [← List.length_map Task.name, hnames, List.length_map]
    exact h.total
  · exact Names.insert_ordered t.name h.ordered
  · exact h.nodup
  · rw [hnames]
    exact h.tasks
  · intro name hn
    rcases Names.mem_insert.mp hn with rfl | hn
    · exact hflag
    · exact h.flagged hn
  · intro name hn
    by_cases hname : name = t.name
    · exact Or.inl (hname ▸ hmine)
    · refine (h.pending name hn).imp hold ?_
      rintro ⟨other, outcome', duration', hw⟩
      refine ⟨other, outcome', duration', ?_⟩
      rw [(resumed_of_ne hs ht h₁ ?_ _).1, hw]
      exact fun he => hname (Prod.mk.inj he).2
  · intro other name outcome' duration' hw
    rcases resumed_cases hs ht h₁ hw with ⟨_, _, hw⟩ | ⟨hne, hw⟩
    · cases hw
    · -- Two attempts that are about to enter would both hold the lock.
      exact absurd (sole_attempt hd.lock_le hself hw rfl rfl) hne
  · intro other name attempt' hw hr
    rcases resumed_cases hs ht h₁ hw with ⟨_, rfl, _⟩ | ⟨_, hw⟩
    · exact hmine
    · exact hold (h.recorded other name attempt' hw hr)
  · intro other name he
    rcases ended_cases hs ht h₁ he with ⟨_, rfl, _⟩ | he
    · exact hmine
    · exact hold (h.ended other name he)

lemma settled (hd : s.Delivery) (hl : attempt.holdsLock = true)
    (hwon : ∀ outcome duration, attempt ≠ .won outcome duration)
    (hf : s.settlement.isSettled t.name = true) :
    t.name ∈ Names.keys s.settlement.ledger.results := by
  have hself := (attempt?_of_mem hs ht side).trans ha
  have hflag : t.name ∈ s.settlement.flags := by
    simpa only [Settlement.isSettled, List.contains_eq_mem, decide_eq_true_eq] using hf
  refine (h.pending t.name hflag).resolve_right ?_
  rintro ⟨other, outcome, duration, hw⟩
  obtain ⟨rfl, -⟩ := Prod.mk.inj (sole_attempt hd.lock_le hself hw hl rfl)
  exact hwon outcome duration (Option.some.inj (hself.symm.trans hw))

lemma advance {panics : Bool} (hd : s.Delivery)
    (hr : AttemptRule s t.name panics attempt attempt' s₁) :
    (s₁.setTask (t.resume side attempt')).Agreement := by
  have hself := (attempt?_of_mem hs ht side).trans ha
  have hrecorded := h.recorded side t.name attempt hself
  cases hr with
  | acquire outcome duration _ => exact h.carry hs ht ha rfl rfl nofun nofun nofun
  | win outcome duration hf => exact h.win hs ht outcome duration rfl rfl hf
  | lose outcome duration hf =>
    exact h.carry hs ht ha rfl rfl nofun nofun fun _ => h.settled hs ht ha hd rfl nofun hf
  | enter outcome duration _ => exact h.enter hs ht ha _ hd rfl rfl rfl
  | refuse outcome duration hf =>
    rw [h.accepts hself] at hf
    cases hf
  | report progress => exact h.carry hs ht ha rfl rfl nofun nofun fun _ => hrecorded rfl
  | finish => exact h.carry hs ht ha rfl rfl nofun nofun fun _ => hrecorded rfl
  | release => exact h.carry hs ht ha rfl rfl nofun nofun fun _ => hrecorded rfl
  | tell _ =>
    exact h.carry hs ht ha s.tell_tasks s.tell_settlement nofun nofun fun _ => hrecorded rfl

end Advance

lemma step (h : s.Agreement) (hd : s.Delivery) (hs : (s.tasks.map Task.name).Nodup)
    (hstep : s.step action = some s') : s'.Agreement := by
  cases effect_of_step hs hstep with
  | aside _ hu => exact h.untouched hu
  | advance ht _ ha hr hs' => exact hs' ▸ h.advance hs ht ha hd hr

lemma initial (config : Config) (fresh : Bool) (names : List String) :
    (System.initial config fresh names).Agreement := by
  have hnone (side : Side) (name : String) := attempt?_initial config fresh names side name
  refine ⟨?_, List.Pairwise.nil, List.nodup_nil, nofun, nofun, nofun, ?_, ?_, ?_⟩
  · exact (List.length_map _).symm
  · intro side name outcome duration hw
    rw [(hnone side name).1] at hw
    cases hw
  · intro side name attempt hw
    rw [(hnone side name).1] at hw
    cases hw
  · intro side name he
    rw [(hnone side name).2] at he
    cases he

end Agreement

lemma ledger_step (hs : (s.tasks.map Task.name).Nodup) (hstep : s.step action = some s') :
    s'.settlement.ledger = s.settlement.ledger ∨
      ∃ side name panics outcome duration, action = .advance side name panics ∧
        s.attempt? side name = some (.won outcome duration) ∧
        s'.settlement.ledger = s.settlement.ledger.enter name outcome duration := by
  cases effect_of_step hs hstep with
  | aside _ hu => exact Or.inl (by rw [hu.settlement])
  | @advance t side panics attempt attempt' s₁ ht hact ha hr hs' =>
    have hself := (attempt?_of_mem hs ht side).trans ha
    subst hs'
    cases hr with
    | enter outcome duration _ =>
      exact Or.inr ⟨side, t.name, panics, outcome, duration, hact, hself, rfl⟩
    | tell _ =>
      left
      change s.tell.settlement.ledger = _
      rw [tell_settlement]
    | _ => exact Or.inl rfl

lemma ledger_final (h : s.Agreement) (hs : (s.tasks.map Task.name).Nodup)
    (hc : s.settlement.ledger.isComplete = true) (hstep : s.step action = some s') :
    s'.settlement.ledger = s.settlement.ledger := by
  rcases ledger_step hs hstep with hl | ⟨_, _, _, _, _, _, ha, _⟩
  · exact hl
  · have hroom := (Ledger.accepts_iff.mp (h.accepts ha)).2
    have hfull := Ledger.isComplete_iff.mp hc
    omega

end System

end ClassBatch.Batch
