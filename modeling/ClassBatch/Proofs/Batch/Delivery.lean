import ClassBatch.Proofs.Batch.Attempts
import ClassBatch.Proofs.Batch.Ledger

/-! The delivery lock. One attempt at a time holds it, and each entry of the ledger is reported
before it is given back. -/

namespace ClassBatch.Batch

namespace Attempt

def holdsLock : Attempt → Bool
  | .holding _ _ | .won _ _ | .entered _ | .reporting | .reported => true
  | _ => false

def isEntered : Attempt → Bool
  | .entered _ => true
  | _ => false

def owesReport : Attempt → Bool
  | .entered _ | .reporting => true
  | _ => false

structure Inner (p : Attempt → Bool) : Prop where
  ready : ∀ outcome duration, p (.ready outcome duration) = false
  ended : ∀ settled, p (.over settled) = false

lemma holdsLock_inner : Inner holdsLock :=
  ⟨fun _ _ => rfl, fun _ => rfl⟩

lemma isEntered_inner : Inner isEntered :=
  ⟨fun _ _ => rfl, fun _ => rfl⟩

lemma owesReport_inner : Inner owesReport :=
  ⟨fun _ _ => rfl, fun _ => rfl⟩

end Attempt

namespace System

variable {s s' s₁ : System} {t : Task} {side other : Side} {attempt attempt' : Attempt}
  {p : Attempt → Bool} {action : Action}

def tally (s : System) (p : Attempt → Bool) : Nat :=
  s.tasks.countP (fun t => (t.attempt? .worker).any p) +
    s.tasks.countP (fun t => (t.attempt? .timer).any p)

lemma countP_keeps {tasks tasks' : List Task} (h : List.Forall₂ Task.Keeps tasks tasks')
    (hp : Attempt.Inner p) (side : Side) :
    tasks'.countP (fun t => (t.attempt? side).any p) =
      tasks.countP fun t => (t.attempt? side).any p := by
  induction h with
  | nil => rfl
  | @cons t t' _ _ hk _ ih =>
    have hany : (t'.attempt? side).any p = (t.attempt? side).any p := by
      rcases hk.attempt side with he | ⟨hn, outcome, duration, hr⟩
      · rw [he]
      · rw [hn, hr, Option.any_some, hp.ready, Option.any_none]
    simp only [List.countP_cons, ih, hany]

lemma Untouched.tally_eq (h : Untouched s s') (hp : Attempt.Inner p) : s'.tally p = s.tally p := by
  rw [tally, tally, countP_keeps h.tasks hp, countP_keeps h.tasks hp]

lemma foldr_setTask {t' : Task} (hs : (s.tasks.map Task.name).Nodup) (ht : t ∈ s.tasks)
    (hn : t'.name = t.name) (f : Task → Nat) :
    (s.setTask t').tasks.foldr (fun u n => f u + n) 0 + f t =
      s.tasks.foldr (fun u n => f u + n) 0 + f t' := by
  rw [setTask_tasks]
  generalize s.tasks = tasks at hs ht
  induction tasks with
  | nil => cases ht
  | cons u tasks ih =>
    obtain ⟨hu, hs⟩ := List.nodup_cons.mp hs
    rw [List.map_cons, List.foldr_cons, List.foldr_cons]
    rcases List.mem_cons.mp ht with rfl | ht
    · -- No other task has the name of `t`, so that the rest stays as it is.
      have hrest : (tasks.map fun other => if other.name = t'.name then t' else other) = tasks := by
        refine (List.map_congr_left ?_).trans (List.map_id tasks)
        intro other ho
        exact if_neg fun he => hu (List.mem_map.mpr ⟨other, ho, he.trans hn⟩)
      rw [hrest, if_pos hn.symm]
      omega
    · have hne : u.name ≠ t'.name := fun he =>
        hu (List.mem_map.mpr ⟨t, ht, hn.symm.trans he.symm⟩)
      have hih := ih hs ht
      rw [if_neg hne]
      omega

lemma countP_eq_foldr (q : Task → Bool) (tasks : List Task) :
    tasks.countP q = tasks.foldr (fun u n => (q u).toNat + n) 0 := by
  induction tasks with
  | nil => rfl
  | cons u tasks ih =>
    rw [List.countP_cons, List.foldr_cons, ih, Nat.add_comm]
    cases q u <;> rfl

lemma countP_setTask {t' : Task} (hs : (s.tasks.map Task.name).Nodup) (ht : t ∈ s.tasks)
    (hn : t'.name = t.name) (q : Task → Bool) :
    (s.setTask t').tasks.countP q + (q t).toNat = s.tasks.countP q + (q t').toNat := by
  rw [countP_eq_foldr, countP_eq_foldr]
  exact foldr_setTask hs ht hn fun u => (q u).toNat

lemma tally_resumed (hs : (s.tasks.map Task.name).Nodup) (ht : t ∈ s.tasks)
    (h₁ : s₁.tasks = s.tasks) (ha : t.attempt? side = some attempt) (hp : Attempt.Inner p)
    (attempt' : Attempt) :
    (s₁.setTask (t.resume side attempt')).tally p + (p attempt).toNat =
      s.tally p + (p attempt').toNat := by
  have hself : ((t.resume side attempt').attempt? side).any p = p attempt' := by
    cases ho : attempt'.isOver with
    | false => rw [Task.attempt?_resume ho, Option.any_some]
    | true =>
      -- The timer forgets an attempt that is over, and such an attempt has no inner property.
      cases hr : (t.resume side attempt').attempt? side with
      | none =>
        cases attempt' with
        | «over» settled => exact (hp.ended settled).symm
        | _ => cases ho
      | some attempt'' => rw [Task.eq_of_attempt?_resume hr, Option.any_some]
  have hcount (other : Side) := countP_setTask (s := s₁) (h₁ ▸ hs) (h₁ ▸ ht)
    (t.resume_name side attempt') fun t => (t.attempt? other).any p
  have hworker := hcount .worker
  have htimer := hcount .timer
  rw [h₁] at hworker htimer
  unfold tally
  cases side with
  | worker =>
    rw [hself, ha, Option.any_some] at hworker
    rw [(Task.resume_of_ne (by decide) t attempt').1] at htimer
    omega
  | timer =>
    rw [hself, ha, Option.any_some] at htimer
    rw [(Task.resume_of_ne (by decide) t attempt').1] at hworker
    omega

lemma tally_initial (config : Config) (fresh : Bool) (names : List String) :
    (initial config fresh names).tally p = 0 := by
  simp [tally, initial, List.countP_map, Function.comp_def, Task.attempt?, Work.attempt?,
    Expiry.attempt?]

lemma eq_of_countP_le_one {α : Type} {l : List α} {q : α → Bool} (hq : l.countP q ≤ 1) {a b : α}
    (ha : a ∈ l) (hb : b ∈ l) (hqa : q a = true) (hqb : q b = true) : a = b := by
  rw [List.countP_eq_length_filter] at hq
  have ha := List.mem_filter.mpr ⟨ha, hqa⟩
  have hb := List.mem_filter.mpr ⟨hb, hqb⟩
  match hf : l.filter q with
  | [] =>
    rw [hf] at ha
    cases ha
  | [c] =>
    rw [hf, List.mem_singleton] at ha hb
    rw [ha, hb]
  | _ :: _ :: _ =>
    rw [hf, List.length_cons, List.length_cons] at hq
    omega

lemma exists_task_of_attempt? {name : String} (h : s.attempt? side name = some attempt) :
    ∃ t ∈ s.tasks, t.name = name ∧ t.attempt? side = some attempt := by
  obtain ⟨t, ht, ha⟩ := Option.bind_eq_some_iff.mp h
  obtain ⟨hm, hn⟩ := task?_eq_some ht
  exact ⟨t, hm, hn, ha⟩

lemma tally_eq_zero_iff (hs : (s.tasks.map Task.name).Nodup) :
    s.tally p = 0 ↔
      ∀ side name attempt, s.attempt? side name = some attempt → p attempt = false := by
  have hcount (side : Side) : s.tasks.countP (fun t => (t.attempt? side).any p) = 0 ↔
      ∀ t ∈ s.tasks, (t.attempt? side).any p = false := by
    simp only [List.countP_eq_zero, Bool.not_eq_true]
  rw [tally, Nat.add_eq_zero_iff, hcount, hcount]
  constructor
  · rintro ⟨hworker, htimer⟩ side name attempt h
    obtain ⟨t, ht, rfl, ha⟩ := exists_task_of_attempt? h
    have hnone : (t.attempt? side).any p = false := by
      cases side with
      | worker => exact hworker t ht
      | timer => exact htimer t ht
    rwa [ha, Option.any_some] at hnone
  · intro h
    have hnone (side : Side) (t : Task) (ht : t ∈ s.tasks) : (t.attempt? side).any p = false := by
      cases ha : t.attempt? side with
      | none => rfl
      | some attempt => exact h side t.name attempt ((attempt?_of_mem hs ht side).trans ha)
    exact ⟨hnone .worker, hnone .timer⟩

lemma tally_pos (hs : (s.tasks.map Task.name).Nodup) {name : String}
    (h : s.attempt? side name = some attempt) (hp : p attempt = true) : 0 < s.tally p := by
  by_contra hzero
  have hnone := (tally_eq_zero_iff hs).mp (Nat.eq_zero_of_not_pos hzero) side name attempt h
  rw [hp] at hnone
  cases hnone

lemma tally_mono {q : Attempt → Bool} (hpq : ∀ attempt, p attempt = true → q attempt = true) :
    s.tally p ≤ s.tally q := by
  have hle (side : Side) : s.tasks.countP (fun t => (t.attempt? side).any p) ≤
      s.tasks.countP fun t => (t.attempt? side).any q := by
    apply List.countP_mono_left
    intro t _ ht
    obtain ⟨attempt, ha, hp⟩ := (Option.any_eq_true _ _).mp ht
    rw [ha, Option.any_some, hpq attempt hp]
  exact Nat.add_le_add (hle .worker) (hle .timer)

lemma sole_attempt {name name' : String} (hp : s.tally p ≤ 1)
    (h : s.attempt? side name = some attempt) (h' : s.attempt? other name' = some attempt')
    (hpa : p attempt = true) (hpa' : p attempt' = true) : (other, name') = (side, name) := by
  obtain ⟨t, ht, rfl, ha⟩ := exists_task_of_attempt? h
  obtain ⟨u, hu, rfl, ha'⟩ := exists_task_of_attempt? h'
  have hq : (t.attempt? side).any p = true := by rw [ha, Option.any_some, hpa]
  have hq' : (u.attempt? other).any p = true := by rw [ha', Option.any_some, hpa']
  have hle (v : Task) (hv : v ∈ s.tasks) (side : Side) (hq : (v.attempt? side).any p = true) :
      0 < s.tasks.countP fun t => (t.attempt? side).any p :=
    List.countP_pos_iff.mpr ⟨v, hv, hq⟩
  have ht' := hle t ht side hq
  have hu' := hle u hu other hq'
  unfold tally at hp
  cases side <;> cases other
  · have hone : s.tasks.countP (fun t => (t.attempt? .worker).any p) ≤ 1 := by omega
    rw [eq_of_countP_le_one hone hu ht hq' hq]
  · omega
  · omega
  · have hone : s.tasks.countP (fun t => (t.attempt? .timer).any p) ≤ 1 := by omega
    rw [eq_of_countP_le_one hone hu ht hq' hq]

/-- The lock is held by one attempt at a time, and whoever enters an outcome has the report on it
return before the lock is given back. -/
structure Delivery (s : System) : Prop where
  lock : s.tally Attempt.holdsLock = s.delivering.toNat
  begun : s.settlement.ledger.completed = s.reports.length + s.tally Attempt.isEntered
  returned : s.settlement.ledger.completed = s.returned + s.tally Attempt.owesReport

lemma completed_enter {l : Ledger} {name : String} (outcome : Outcome) (duration : Duration)
    (h : l.accepts name = true) :
    (l.enter name outcome duration).completed = l.completed + 1 :=
  (Names.put_perm outcome (Ledger.accepts_iff.mp h).1).length_eq

namespace Delivery

lemma lock_le (h : s.Delivery) : s.tally Attempt.holdsLock ≤ 1 := by
  rw [h.lock]
  exact Bool.toNat_le _

lemma owed_le (h : s.Delivery) : s.tally Attempt.owesReport ≤ 1 := by
  refine (tally_mono ?_).trans h.lock_le
  intro attempt howes
  cases attempt with
  | entered _ | reporting => rfl
  | _ => cases howes

lemma delivering (h : s.Delivery) (ht : t ∈ s.tasks) (ha : t.attempt? side = some attempt)
    (hl : attempt.holdsLock = true) :
    false.toNat + attempt.holdsLock.toNat = s.delivering.toNat + false.toNat := by
  have hpos : 0 < s.tasks.countP fun t => (t.attempt? side).any Attempt.holdsLock :=
    List.countP_pos_iff.mpr ⟨t, ht, by rw [ha, Option.any_some, hl]⟩
  have hlock := h.lock
  have hle := h.lock_le
  rw [hl, Bool.toNat_true, Bool.toNat_false]
  unfold tally at hlock hle
  cases side <;> omega

lemma of_resumed (h : s.Delivery) (hs : (s.tasks.map Task.name).Nodup) (ht : t ∈ s.tasks)
    (h₁ : s₁.tasks = s.tasks) (ha : t.attempt? side = some attempt)
    (hlock : s₁.delivering.toNat + attempt.holdsLock.toNat =
      s.delivering.toNat + attempt'.holdsLock.toNat)
    (hbegun : s₁.settlement.ledger.completed + s.reports.length + attempt.isEntered.toNat =
      s.settlement.ledger.completed + s₁.reports.length + attempt'.isEntered.toNat)
    (hreturned : s₁.settlement.ledger.completed + s.returned + attempt.owesReport.toNat =
      s.settlement.ledger.completed + s₁.returned + attempt'.owesReport.toNat) :
    (s₁.setTask (t.resume side attempt')).Delivery := by
  obtain ⟨h₂, h₃, h₄⟩ := h
  have tally {p : Attempt → Bool} (hp : Attempt.Inner p) := tally_resumed hs ht h₁ ha hp attempt'
  have tlock := tally Attempt.holdsLock_inner
  have tentered := tally Attempt.isEntered_inner
  have towes := tally Attempt.owesReport_inner
  refine ⟨?_, ?_, ?_⟩
  · change _ = s₁.delivering.toNat
    omega
  · change s₁.settlement.ledger.completed = s₁.reports.length + _
    omega
  · change s₁.settlement.ledger.completed = s₁.returned + _
    omega

lemma advance {panics : Bool} (h : s.Delivery) (hs : (s.tasks.map Task.name).Nodup)
    (ht : t ∈ s.tasks) (ha : t.attempt? side = some attempt)
    (hr : AttemptRule s t.name panics attempt attempt' s₁) :
    (s₁.setTask (t.resume side attempt')).Delivery := by
  cases hr with
  | acquire outcome duration hd => exact h.of_resumed hs ht rfl ha (by rw [hd]; rfl) rfl rfl
  | win outcome duration hf => exact h.of_resumed hs ht rfl ha rfl rfl rfl
  | lose outcome duration hf => exact h.of_resumed hs ht rfl ha (h.delivering ht ha rfl) rfl rfl
  | enter outcome duration haccepts =>
    have hc := completed_enter outcome duration haccepts
    refine h.of_resumed hs ht rfl ha rfl ?_ ?_
    · simp only [hc, Attempt.isEntered, Bool.toNat_false, Bool.toNat_true]
      omega
    · simp only [hc, Attempt.owesReport, Bool.toNat_false, Bool.toNat_true]
      omega
  | refuse outcome duration hf =>
    exact h.of_resumed hs ht rfl ha (h.delivering ht ha rfl) rfl rfl
  | report progress =>
    refine h.of_resumed hs ht rfl ha rfl ?_ rfl
    simp only [Attempt.isEntered, List.length_append, List.length_singleton, Bool.toNat_false,
      Bool.toNat_true]
    omega
  | finish =>
    refine h.of_resumed hs ht rfl ha rfl rfl ?_
    simp only [Attempt.owesReport, Bool.toNat_false, Bool.toNat_true]
    omega
  | release => exact h.of_resumed hs ht rfl ha (h.delivering ht ha rfl) rfl rfl
  | tell hl =>
    refine h.of_resumed hs ht s.tell_tasks ha ?_ ?_ ?_
    · rw [tell_delivering]
      rfl
    · rw [tell_settlement, tell_reports]
      rfl
    · rw [tell_settlement, tell_returned]
      rfl

lemma step (h : s.Delivery) (hs : (s.tasks.map Task.name).Nodup)
    (hstep : s.step action = some s') : s'.Delivery := by
  cases effect_of_step hs hstep with
  | aside _ hu =>
    refine ⟨?_, ?_, ?_⟩
    · rw [hu.tally_eq Attempt.holdsLock_inner, hu.delivering, h.lock]
    · rw [hu.tally_eq Attempt.isEntered_inner, hu.settlement, hu.reports, h.begun]
    · rw [hu.tally_eq Attempt.owesReport_inner, hu.settlement, hu.returned, h.returned]
  | advance ht _ ha hr hs' => exact hs' ▸ h.advance hs ht ha hr

lemma initial (config : Config) (fresh : Bool) (names : List String) :
    (System.initial config fresh names).Delivery := by
  refine ⟨?_, ?_, ?_⟩ <;> rw [tally_initial] <;> rfl

end Delivery

end System

end ClassBatch.Batch
