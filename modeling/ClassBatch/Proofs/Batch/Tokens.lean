import ClassBatch.Batch.Token
import ClassBatch.Proofs.Batch.Cancelling

/-! The tasks of a batch hold tokens. One step cancels one of them at most, and none that is cancelled
is ever free again. -/

namespace ClassBatch.Batch

namespace Tokens

variable (t : Tokens) (token other : Nat)

lemma isCancelled_fresh : t.fresh.2.isCancelled token = t.isCancelled token := by
  rw [isCancelled, isCancelled, fresh]
  rcases Nat.lt_trichotomy token t.flags.length with h | rfl | h
  · rw [List.getElem?_append_left h]
  · rw [List.getElem?_concat_length, List.getElem?_eq_none (Nat.le_refl _)]
    rfl
  · have hlength : (t.flags ++ [false]).length ≤ token := by
      rw [List.length_append]
      exact h
    rw [List.getElem?_eq_none hlength, List.getElem?_eq_none (Nat.le_of_lt h)]

lemma not_isCancelled_fresh : t.fresh.2.isCancelled t.fresh.1 = false := by
  rw [isCancelled_fresh, isCancelled, fresh, List.getElem?_eq_none (Nat.le_refl _), Option.getD_none]

lemma isCancelled_cancel : (t.cancel token).isCancelled other =
    (t.isCancelled other || (decide (token = other) && decide (token < t.flags.length))) := by
  rw [isCancelled, isCancelled, cancel, List.getElem?_set]
  by_cases hother : token = other
  · subst hother
    by_cases hlt : token < t.flags.length <;> simp [hlt]
  · simp [hother]

lemma isCancelled_cancel_of (h : t.isCancelled other = true) :
    (t.cancel token).isCancelled other = true := by
  rw [isCancelled_cancel, h, Bool.true_or]

end Tokens

namespace System

variable {s s' : System} {t t' : Task} {action : Action} {token : Nat}

def tokens (s : System) : Tokens :=
  ⟨s.tasks.map Task.cancelled⟩

lemma exists_token (hs : (s.tasks.map Task.name).Nodup) (ht : t ∈ s.tasks) (hn : t'.name = t.name) :
    ∃ token, s.tokens.flags[token]? = some t.cancelled ∧
      (s.setTask t').tokens.flags = s.tokens.flags.set token t'.cancelled := by
  obtain ⟨token, htoken, rfl⟩ := List.getElem_of_mem ht
  refine ⟨token, by simp [tokens, htoken], List.ext_getElem (by simp [tokens, setTask]) ?_⟩
  intro place hplace hplace'
  have hlt : place < s.tasks.length := by simpa [tokens] using hplace'
  have hname : s.tasks[place].name = t'.name ↔ token = place := by
    rw [hn]
    constructor
    · intro h
      have heq := eq_of_name_eq hs (List.getElem_mem hlt) ht h
      exact ((List.Nodup.getElem_inj_iff (List.Nodup.of_map _ hs)).mp heq).symm
    · rintro rfl
      rfl
  simp only [tokens, setTask_tasks, List.getElem_map, List.getElem_set, hname]
  split <;> rfl

lemma tokens_of_step (hs : (s.tasks.map Task.name).Nodup) (h : s.step action = some s') :
    s'.tokens = s.tokens ∨ ∃ token, s'.tokens = s.tokens.cancel token := by
  have cancel {t : Task} (ht : t ∈ s.tasks) {t' : Task} (hn : t'.name = t.name)
      (hc : t'.cancelled = true) : ∃ token, (s.setTask t').tokens = s.tokens.cancel token := by
    obtain ⟨token, -, hset⟩ := exists_token hs ht hn
    exact ⟨token, by rw [Tokens.cancel, ← hc, ← hset]⟩
  rcases rule_of_step h with ⟨t, ht, t', s₁, hr, rfl⟩ | hr
  · have htokens : (s₁.setTask t').tokens = (s.setTask t').tokens := by
      rw [tokens, tokens, setTask_tasks, setTask_tasks, hr.tasks]
    rw [htokens]
    rcases hr.cancelled_eq with hsame | ⟨-, hc⟩
    · obtain ⟨token, hget, hset⟩ := exists_token hs ht hr.name_eq
      obtain ⟨hlt, hflag⟩ := List.getElem?_eq_some_iff.mp hget
      rw [hsame, ← hflag, List.set_getElem_self hlt] at hset
      exact .inl (congrArg Tokens.mk hset)
    · exact .inr (cancel ht hr.name_eq hc)
  · cases hr with
    | sweepNext name names hw =>
      change (s.cancelUnsettled name).tokens = _ ∨ ∃ token, (s.cancelUnsettled name).tokens = _
      unfold cancelUnsettled
      split
      · exact .inl rfl
      · split
        · rename_i t ht
          exact .inr (cancel (task?_eq_some ht).1 rfl rfl)
        · exact .inl rfl
    | signalAbort _ _ => exact .inl (by rw [tokens, tokens, s.tell_tasks])
    | _ => exact .inl rfl

lemma isCancelled_of_step (hs : (s.tasks.map Task.name).Nodup) (h : s.step action = some s')
    (ht : s.tokens.isCancelled token = true) : s'.tokens.isCancelled token = true := by
  rcases tokens_of_step hs h with htokens | ⟨other, htokens⟩
  · rw [htokens]
    exact ht
  · rw [htokens]
    exact Tokens.isCancelled_cancel_of _ _ _ ht

/-- What is cancelled in the course of a batch stays so. -/
theorem isCancelled_of_steps {config : Config} {fresh : Bool} {names : List String}
    {actions later : List Action} (h : (initial config fresh names).steps actions = some s)
    (hlater : s.steps later = some s') (ht : s.tokens.isCancelled token = true) :
    s'.tokens.isCancelled token = true := by
  induction later generalizing s actions with
  | nil =>
    cases hlater
    exact ht
  | cons action later ih =>
    rw [steps_cons] at hlater
    obtain ⟨s₁, hstep, hrest⟩ := Option.bind_eq_some_iff.mp hlater
    have hrun : (initial config fresh names).steps (actions ++ [action]) = some s₁ := by
      rw [steps_append, h, Option.bind_some, steps_cons, hstep]
      rfl
    exact ih hrun hrest (isCancelled_of_step (run_of_steps h).sound.nodup hstep ht)

end System

end ClassBatch.Batch
