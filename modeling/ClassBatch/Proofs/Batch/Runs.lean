import ClassBatch.Proofs.Batch.Rules
import Mathlib.Data.List.Induction

/-! Runs of a batch and the events along them. -/

namespace ClassBatch.Batch.System

inductive Run (start : System) : List Action → System → Prop
  | nil : Run start [] start
  | concat {actions : List Action} {s s' : System} {action : Action} :
      Run start actions s → s.step action = some s' → Run start (actions ++ [action]) s'

def trace {α : Type} (event? : System → Action → Option α) : System → List Action → List α
  | _, [] => []
  | s, action :: actions =>
    (event? s action).toList ++ (s.step action).elim [] fun s' => trace event? s' actions

variable {start s s' : System} {actions : List Action} {action : Action} {α : Type}

lemma steps_cons (s : System) (action : Action) (actions : List Action) :
    s.steps (action :: actions) = (s.step action).bind fun s' => s'.steps actions :=
  rfl

lemma steps_concat (s : System) (actions : List Action) (action : Action) :
    s.steps (actions ++ [action]) = (s.steps actions).bind fun s' => s'.step action := by
  induction actions generalizing s with
  | nil =>
    rw [List.nil_append, steps_cons]
    exact Option.bind_fun_some _
  | cons first actions ih =>
    rw [List.cons_append, steps_cons, steps_cons, Option.bind_assoc]
    exact Option.bind_congr fun s' _ => ih s'

lemma run_of_steps (h : start.steps actions = some s) : Run start actions s := by
  induction actions using List.reverseRecOn generalizing s with
  | nil =>
    cases h
    exact .nil
  | append_singleton actions action ih =>
    rw [steps_concat] at h
    obtain ⟨s', hs', hs⟩ := Option.bind_eq_some_iff.mp h
    exact .concat (ih hs') hs

lemma Run.steps (h : Run start actions s) : start.steps actions = some s := by
  induction h with
  | nil => rfl
  | concat _ hs ih => rw [steps_concat, ih, Option.bind_some, hs]

lemma trace_concat_of_steps (event? : System → Action → Option α)
    (h : start.steps actions = some s) (action : Action) :
    trace event? start (actions ++ [action]) =
      trace event? start actions ++ (event? s action).toList := by
  induction actions generalizing start with
  | nil =>
    cases h
    simp only [List.nil_append, trace]
    cases s.step action <;> simp
  | cons first actions ih =>
    rw [steps_cons] at h
    obtain ⟨s', hs', hs⟩ := Option.bind_eq_some_iff.mp h
    simp only [List.cons_append, trace, hs', Option.elim_some, ih hs, List.append_assoc]

lemma Run.trace_concat (h : Run start actions s) (event? : System → Action → Option α)
    (action : Action) : trace event? start (actions ++ [action]) =
      trace event? start actions ++ (event? s action).toList :=
  trace_concat_of_steps event? h.steps action

end ClassBatch.Batch.System
