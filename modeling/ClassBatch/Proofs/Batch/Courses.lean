import ClassBatch.Batch.Course
import ClassBatch.Proofs.Batch.Phases

/-! The plain course of a batch is one of its runs. -/

namespace ClassBatch.Batch

namespace System

variable {start s : System} {σ : Type}

def Reaches (start s : System) : Prop :=
  ∃ actions, start.steps actions = some s

namespace Reaches

lemma refl (s : System) : s.Reaches s :=
  ⟨[], rfl⟩

lemma perform (h : start.Reaches s) (action : Action) : start.Reaches (s.perform action) := by
  rw [System.perform]
  cases hstep : s.step action with
  | none => exact h
  | some s' =>
    obtain ⟨actions, hs⟩ := h
    refine ⟨actions ++ [action], ?_⟩
    rw [steps_concat, hs, Option.bind_some, hstep, Option.getD_some]

lemma foldl {α : Type} {f : System → α → System}
    (hf : ∀ {s} (a : α), start.Reaches s → start.Reaches (f s a)) (as : List α)
    (h : start.Reaches s) : start.Reaches (as.foldl f s) :=
  as.foldlRecOn f h fun _ hs a _ => hf a hs

lemma performAll (h : start.Reaches s) (actions : List Action) :
    start.Reaches (s.performAll actions) :=
  foldl (fun action hs => hs.perform action) actions h

lemma settle (h : start.Reaches s) (callbacks : Callbacks) (name : String) :
    start.Reaches (s.settle callbacks name) := by
  rw [System.settle]
  exact foldl (fun _ hs => hs.perform _) _ (h.perform _)

variable {b : Backend σ} {callbacks : Callbacks} {state : σ}

lemma serve (h : start.Reaches s) (name : String) :
    start.Reaches (System.serve b callbacks name s state).1 := by
  rw [System.serve]
  split
  · have hcall := h.perform (.call name)
    dsimp only
    split
    · dsimp only
      exact (hcall.perform _).settle callbacks name
    · exact hcall
  · dsimp only
    exact h.settle callbacks name

lemma work (h : start.Reaches s) (name : String) :
    start.Reaches (s.work b callbacks state name).1 := by
  have htaken := h.performAll [.take name, .check name]
  rw [System.work]
  dsimp only
  split
  · split
    · exact (htaken.perform _).serve name
    · exact (htaken.perform _).serve name
  · exact htaken

lemma watchOnce (h : start.Reaches s) : start.Reaches s.watchOnce :=
  h.performAll _

lemma workEach (names : List String) (h : start.Reaches s) :
    start.Reaches
      (names.foldl (fun (s, state) name => s.work b callbacks state name) (s, state)).1 := by
  induction names generalizing s state with
  | nil => exact h
  | cons name names ih => exact ih (h.work name)

lemma workAll (h : start.Reaches s) : start.Reaches (s.workAll b callbacks state).1 := by
  have hsubmitted := h.performAll (s.names.flatMap fun name => [.submit name, .schedule name])
  have hlaunched := (hsubmitted.perform .launch).watchOnce
  rw [System.workAll]
  dsimp only
  exact (hlaunched.workEach _).watchOnce

lemma windUp (h : start.Reaches s) : start.Reaches (s.windUp callbacks) := by
  have hswept := h.performAll (List.replicate (s.tasks.length + 1) .sweep)
  rw [System.windUp]
  exact hswept.performAll _

lemma relent (h : start.Reaches s) (name : String) :
    start.Reaches (s.relent b callbacks state name).1 := by
  rw [System.relent]
  split
  · dsimp only
    exact (h.perform _).settle callbacks name
  · exact h

lemma relentEach (names : List String) (h : start.Reaches s) :
    start.Reaches
      (names.foldl (fun (s, state) name => s.relent b callbacks state name) (s, state)).1 := by
  induction names generalizing s state with
  | nil => exact h
  | cons name names ih => exact ih (h.relent name)

lemma release (h : start.Reaches s) : start.Reaches (s.release b callbacks state).1 := by
  rw [System.release]
  dsimp only
  exact (h.relentEach _).performAll _

end Reaches

end System

lemma Course.reaches_ending {b : Backend σ} {config : Config} {callbacks : Callbacks} {abort : Bool}
    {now : Nat} {names : List String} {state state' : σ} {course : Course}
    (h : run b config callbacks abort now names state = (.ok course, state')) :
    (System.initial config b.fresh names).Reaches course.ending := by
  rw [run] at h
  split at h
  · cases h
  · rename_i created _
    cases hdeadlines : deadlines? config.timeout ((Names.sorted names).map fun _ => now) with
    | none => rw [hdeadlines] at h; cases h
    | some deadlines =>
      rw [hdeadlines] at h
      have hworked : (System.initial config b.fresh names).Reaches
          ((System.initial config b.fresh names).workAll b callbacks
            ((System.initial config b.fresh names).dismiss b 0 created)).1 :=
        (System.Reaches.refl _).workAll
      simp only [Prod.mk.injEq, Except.ok.injEq] at h
      obtain ⟨rfl, -⟩ := h
      dsimp only
      refine System.Reaches.release (System.Reaches.windUp ?_)
      split
      · exact (hworked.performAll _).watchOnce
      · exact hworked

inductive Backend.Uses (b : Backend σ) (start : σ) : σ → Prop
  | nil : b.Uses start start
  | create {state : σ} (number : Nat) :
      b.Uses start state → b.Uses start (b.create number state).2
  | call {state : σ} (number : Nat) (name : String) :
      b.Uses start state → b.Uses start (b.call number name state).2
  | drop {state : σ} (number : Nat) : b.Uses start state → b.Uses start (b.drop number state)

namespace Backend.Uses

variable {b : Backend σ} {start state : σ} {s : System} {callbacks : Callbacks}

lemma dismiss (h : b.Uses start state) (number : Nat) :
    b.Uses start (s.dismiss b number state) := by
  rw [System.dismiss]
  split
  · exact h.drop number
  · exact h

lemma serve (h : b.Uses start state) (name : String) :
    b.Uses start (System.serve b callbacks name s state).2 := by
  rw [System.serve]
  split
  · rename_i number _
    have hcall := h.call number name
    dsimp only
    split
    · exact hcall.dismiss number
    · exact hcall
  · exact h

lemma work (h : b.Uses start state) (name : String) :
    b.Uses start (s.work b callbacks state name).2 := by
  rw [System.work]
  dsimp only
  split
  · split
    · exact (h.create _).serve name
    · exact h.serve name
  · exact h

lemma workEach (names : List String) (h : b.Uses start state) : b.Uses start
    (names.foldl (fun (s, state) name => s.work b callbacks state name) (s, state)).2 := by
  induction names generalizing s state with
  | nil => exact h
  | cons name names ih => exact ih (h.work name)

lemma workAll (h : b.Uses start state) : b.Uses start (s.workAll b callbacks state).2 := by
  rw [System.workAll]
  dsimp only
  exact h.workEach _

lemma relent (h : b.Uses start state) (name : String) :
    b.Uses start (s.relent b callbacks state name).2 := by
  rw [System.relent]
  split
  · exact h.dismiss _
  · exact h

lemma relentEach (names : List String) (h : b.Uses start state) : b.Uses start
    (names.foldl (fun (s, state) name => s.relent b callbacks state name) (s, state)).2 := by
  induction names generalizing s state with
  | nil => exact h
  | cons name names ih => exact ih (h.relent name)

lemma release (h : b.Uses start state) : b.Uses start (s.release b callbacks state).2 := by
  rw [System.release]
  dsimp only
  exact h.relentEach _

end Backend.Uses

lemma System.complete_of_over {config : Config} {fresh : Bool} {names : List String}
    {actions : List Action} {s : System} {l : Ledger}
    (h : (initial config fresh names).steps actions = some s)
    (hover : s.watch = .over (.completed l)) :
    l.FilledBy (Names.sorted names).length (entries (initial config fresh names) actions) ∧
      Names.keys l.results = Names.sorted names := by
  have hout : s.watch.ledger? = some l := by
    rw [hover]
    rfl
  exact (run_of_steps h).complete_of_handed (Or.inl hout)

end ClassBatch.Batch
