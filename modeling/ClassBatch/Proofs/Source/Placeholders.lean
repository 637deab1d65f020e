import ClassBatch.Proofs.Batch.Answering
import ClassBatch.Proofs.Source.Stubs

/-! A stub tells its class and its reason. Its first slash begins the comment, as the simple name
has none, and the comment ends in the whole name whatever that looks like. -/

namespace ClassBatch

namespace Source

variable {m n comment comment' : String}

lemma comment_of_stub_eq (h : stub m comment = stub n comment') : comment = comment' := by
  have hlists := congrArg String.toList h
  rw [toList_stub, toList_stub] at hlists
  simp only [List.append_assoc, List.append_cancel_left_eq] at hlists
  obtain ⟨-, hcomments⟩ := opening_inj (not_mem_simpleChars m.toList)
    (not_mem_simpleChars n.toList) hlists
  exact String.toList_inj.mp (List.append_cancel_right hcomments)

lemma name_of_stub_eq {told : String} (h : stub m (told ++ m) = stub n (told ++ n)) : m = n := by
  have hlists := congrArg String.toList (comment_of_stub_eq h)
  rw [String.toList_append, String.toList_append] at hlists
  exact String.toList_inj.mp (List.append_cancel_left hlists)

lemma failureStub_ne_timeoutStub (m n : String) : failureStub m ≠ timeoutStub n := by
  intro h
  -- the reasons part at their twentieth character, before any name has begun
  have hlists := congrArg (List.take 20 ∘ String.toList) (comment_of_stub_eq h)
  rw [Function.comp_apply, Function.comp_apply, String.toList_append, String.toList_append,
    List.take_append_of_le_length (by decide), List.take_append_of_le_length (by decide)] at hlists
  revert hlists
  decide

lemma failureStub_inj : failureStub m = failureStub n ↔ m = n :=
  ⟨name_of_stub_eq, congrArg failureStub⟩

lemma timeoutStub_inj : timeoutStub m = timeoutStub n ↔ m = n :=
  ⟨name_of_stub_eq, congrArg timeoutStub⟩

end Source

namespace Batch.System

open Source

variable {config : Config} {fresh : Bool} {names : List String} {actions : List Action} {s : System}
  {name : String} {outcome : Outcome}

lemma Run.placeholder (h : Run (initial config fresh names) actions s)
    (hm : (name, outcome) ∈ s.settlement.ledger.results) (hfailed : outcome.isFailed = true) :
    (∃ cause, outcome = .failure (failureStub name) cause) ∨
      outcome = .timedOut (timeoutStub name) := by
  rcases h.hearing.heard_of_result h.sound hm with hexpired | ⟨action, -, hbrings⟩
  · exact Or.inr hexpired
  · cases hbrings with
    | source text => cases hfailed
    | error cause => exact Or.inl ⟨_, rfl⟩
    | panic payload => exact Or.inl ⟨_, rfl⟩
    | refusal cause _ => exact Or.inl ⟨_, rfl⟩

/-- No two names have the same stub, for the same reason or for different ones. So whatever its
classes are called, each placeholder that a batch puts into a bundle reads as that of its own class,
and as the stub of the reason for which the class has no source. -/
theorem placeholders_identify :
    (∀ m n, failureStub m = failureStub n → m = n) ∧
    (∀ m n, timeoutStub m = timeoutStub n → m = n) ∧
    (∀ m n, failureStub m ≠ timeoutStub n) ∧
    ∀ config fresh names actions s, (initial config fresh names).steps actions = some s →
      ∀ name outcome, (name, outcome) ∈ s.settlement.ledger.results →
        outcome.isFailed = true → ∀ m,
          (outcome.source = failureStub m ↔
            m = name ∧ ∃ cause, outcome = .failure (failureStub name) cause) ∧
          (outcome.source = timeoutStub m ↔
            m = name ∧ outcome = .timedOut (timeoutStub name)) := by
  refine ⟨fun m n => failureStub_inj.mp, fun m n => timeoutStub_inj.mp, failureStub_ne_timeoutStub,
    fun config fresh names actions s h name outcome hm hfailed m => ?_⟩
  rcases (run_of_steps h).placeholder hm hfailed with ⟨cause, rfl⟩ | rfl
  · have hother : Outcome.failure (failureStub name) cause ≠ .timedOut (timeoutStub name) := nofun
    refine ⟨?_, ?_⟩
    · rw [Outcome.source, failureStub_inj, eq_comm]
      exact (and_iff_left ⟨cause, rfl⟩).symm
    · exact iff_of_false (failureStub_ne_timeoutStub name m) fun h => hother h.2
  · refine ⟨?_, ?_⟩
    · refine iff_of_false (failureStub_ne_timeoutStub m name).symm ?_
      rintro ⟨-, cause, hcause⟩
      cases hcause
    · rw [Outcome.source, timeoutStub_inj, eq_comm]
      exact (and_iff_left rfl).symm

def lookalike : String :=
  ", took too long to decompile: a/A"

def sourceless : List Action :=
  [.submit lookalike, .schedule lookalike, .submit "a/A", .schedule "a/A", .launch,
    .take lookalike, .check lookalike, .equip lookalike (.refused (.noOutput lookalike)),
    .time lookalike (Duration.ofSeconds 1)] ++
  List.replicate 7 (.advance .worker lookalike false) ++ timeOut "a/A"

theorem placeholders_identify_lookalikes :
    ∃ s outcome, (initial Config.default true [lookalike, "a/A"]).steps sourceless = some s ∧
      s.settlement.ledger.sources =
        [(lookalike, failureStub lookalike), ("a/A", timeoutStub "a/A")] ∧
      ("a/A", outcome) ∈ s.settlement.ledger.results ∧
      outcome.source ≠ failureStub lookalike ∧ outcome.source ≠ timeoutStub lookalike := by
  have hfinal : ((initial Config.default true [lookalike, "a/A"]).steps sourceless).any (fun s =>
      s.settlement.ledger.sources =
          [(lookalike, failureStub lookalike), ("a/A", timeoutStub "a/A")] ∧
        ("a/A", .timedOut (timeoutStub "a/A")) ∈ s.settlement.ledger.results) = true := by
    decide
  obtain ⟨s, hs, hends⟩ := (Option.any_eq_true _ _).mp hfinal
  obtain ⟨hsources, hm⟩ := of_decide_eq_true hends
  obtain ⟨hfailure, htimeout⟩ :=
    placeholders_identify.2.2.2 _ _ _ _ s hs _ _ hm rfl lookalike
  have hother : lookalike ≠ "a/A" := by decide
  exact ⟨s, _, hs, hsources, hm, fun h => hother (hfailure.mp h).1,
    fun h => hother (htimeout.mp h).1⟩

end Batch.System

end ClassBatch
