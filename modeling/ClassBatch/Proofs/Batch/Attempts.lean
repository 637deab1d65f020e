import ClassBatch.Proofs.Batch.Runs
import ClassBatch.Proofs.Names
import Mathlib.Data.List.Forall2

/-! The attempts of a batch to settle its tasks: a step either carries one of them on, or leaves all
of them as they are, except that one may begin. -/

namespace ClassBatch.Batch

def Attempt.isOver : Attempt → Bool
  | .over _ => true
  | _ => false

def Work.attempt? : Work → Option Attempt
  | .settling attempt => some attempt
  | _ => none

def Expiry.attempt? : Expiry → Option Attempt
  | .settling attempt => some attempt
  | _ => none

lemma Work.settling_of_attempt? {work : Work} {attempt : Attempt}
    (h : work.attempt? = some attempt) : work = .settling attempt := by
  cases work <;> cases h
  rfl

lemma Expiry.settling_of_attempt? {expiry : Expiry} {attempt : Attempt}
    (h : expiry.attempt? = some attempt) : expiry = .settling attempt := by
  cases expiry <;> cases h
  rfl

namespace Task

def attempt? (t : Task) : Side → Option Attempt
  | .worker => t.work.attempt?
  | .timer => t.expiry.attempt?

def hasEnded (t : Task) : Side → Bool
  | .worker => t.work.attempt?.any Attempt.isOver
  | .timer => t.expiry = .cancelling || t.expiry = .over

structure Keeps (t t' : Task) : Prop where
  name : t'.name = t.name
  ended : ∀ side, t'.hasEnded side = t.hasEnded side
  attempt : ∀ side, t'.attempt? side = t.attempt? side ∨
    t.attempt? side = none ∧ ∃ outcome duration, t'.attempt? side = some (.ready outcome duration)

variable {t : Task} {side other : Side} {attempt attempt' : Attempt}

lemma keeps_work {work : Work} (h : t.work.attempt? = none)
    (h' : work.attempt? = none ∨
      ∃ outcome duration, work.attempt? = some (.ready outcome duration)) :
    t.Keeps { t with work } := by
  refine ⟨rfl, ?_, ?_⟩
  · intro side
    cases side with
    | worker =>
      simp only [hasEnded, h]
      rcases h' with h' | ⟨outcome, duration, h'⟩ <;> simp [h', Attempt.isOver]
    | timer => rfl
  · intro side
    cases side with
    | worker =>
      rcases h' with h' | h'
      · exact Or.inl (h'.trans h.symm)
      · exact Or.inr ⟨h, h'⟩
    | timer => exact Or.inl rfl

lemma keeps_expiry {expiry : Expiry} (cancelled : Bool) (h : t.expiry.attempt? = none)
    (h' : expiry.attempt? = none ∨
      ∃ outcome duration, expiry.attempt? = some (.ready outcome duration))
    (he : { t with expiry }.hasEnded .timer = t.hasEnded .timer) :
    t.Keeps { t with expiry, cancelled } := by
  refine ⟨rfl, ?_, ?_⟩
  · intro side
    cases side with
    | worker => rfl
    | timer => exact he
  · intro side
    cases side with
    | worker => exact Or.inl rfl
    | timer =>
      rcases h' with h' | h'
      · exact Or.inl (h'.trans h.symm)
      · exact Or.inr ⟨h, h'⟩

lemma Keeps.refl (t : Task) : t.Keeps t :=
  ⟨rfl, fun _ => rfl, fun _ => Or.inl rfl⟩

lemma keeps_cancelled (cancelled : Bool) : t.Keeps { t with cancelled } :=
  ⟨rfl, fun side => by cases side <;> rfl, fun side => by cases side <;> exact Or.inl rfl⟩

@[simp] lemma resume_name (t : Task) (side : Side) (attempt : Attempt) :
    (t.resume side attempt).name = t.name := by
  cases side with
  | worker => rfl
  | timer =>
    cases attempt with
    | «over» settled => cases settled <;> rfl
    | _ => rfl

lemma resume_of_ne (h : other ≠ side) (t : Task) (attempt : Attempt) :
    (t.resume side attempt).attempt? other = t.attempt? other ∧
      (t.resume side attempt).hasEnded other = t.hasEnded other := by
  cases side <;> cases other
  · exact absurd rfl h
  · exact ⟨rfl, rfl⟩
  · cases attempt with
    | «over» settled => cases settled <;> exact ⟨rfl, rfl⟩
    | _ => exact ⟨rfl, rfl⟩
  · exact absurd rfl h

lemma attempt?_resume (h : attempt.isOver = false) (t : Task) (side : Side) :
    (t.resume side attempt).attempt? side = some attempt := by
  cases side with
  | worker => rfl
  | timer =>
    cases attempt with
    | «over» settled => cases h
    | _ => rfl

lemma eq_of_attempt?_resume (h : (t.resume side attempt).attempt? side = some attempt') :
    attempt' = attempt := by
  cases side with
  | worker => exact (Option.some.inj h).symm
  | timer =>
    cases attempt with
    | «over» settled => cases settled <;> cases h
    | _ => exact (Option.some.inj h).symm

lemma hasEnded_resume (t : Task) (side : Side) (attempt : Attempt) :
    (t.resume side attempt).hasEnded side = attempt.isOver := by
  cases side with
  | worker => rfl
  | timer =>
    cases attempt with
    | «over» settled => cases settled <;> rfl
    | _ => rfl

end Task

namespace System

variable {s s' s₁ : System} {t t' u : Task} {action : Action} {side : Side} {panics : Bool}
  {attempt attempt' : Attempt}

structure Untouched (s s' : System) : Prop where
  settlement : s'.settlement = s.settlement
  delivering : s'.delivering = s.delivering
  reports : s'.reports = s.reports
  returned : s'.returned = s.returned
  tasks : List.Forall₂ Task.Keeps s.tasks s'.tasks

inductive Effect (s : System) (action : Action) (s' : System) : Prop
  | aside : (∀ side name panics, action ≠ .advance side name panics) → Untouched s s' →
      Effect s action s'
  | advance {t : Task} {side : Side} {panics : Bool} {attempt attempt' : Attempt} {s₁ : System} :
      t ∈ s.tasks → action = .advance side t.name panics → t.attempt? side = some attempt →
      AttemptRule s t.name panics attempt attempt' s₁ →
      s' = s₁.setTask (t.resume side attempt') → Effect s action s'

lemma setTask_tasks (s : System) (t : Task) :
    (s.setTask t).tasks = s.tasks.map fun other => if other.name = t.name then t else other :=
  rfl

@[simp] lemma setTask_names (s : System) (t : Task) :
    (s.setTask t).tasks.map Task.name = s.tasks.map Task.name := by
  rw [setTask_tasks, List.map_map]
  apply List.map_congr_left
  intro other _
  simp only [Function.comp_apply]
  split
  · rename_i hn
    exact hn.symm
  · rfl

lemma mem_setTask_iff (hn : t'.name = t.name) (ht : t ∈ s.tasks) :
    u ∈ (s.setTask t').tasks ↔ u = t' ∨ u ∈ s.tasks ∧ u.name ≠ t'.name := by
  rw [setTask_tasks, List.mem_map]
  constructor
  · rintro ⟨other, ho, rfl⟩
    by_cases hne : other.name = t'.name
    · rw [if_pos hne]
      exact Or.inl rfl
    · rw [if_neg hne]
      exact Or.inr ⟨ho, hne⟩
  · rintro (rfl | ⟨hu, hne⟩)
    · exact ⟨t, ht, if_pos hn.symm⟩
    · exact ⟨u, hu, if_neg hne⟩

lemma mem_setTask (h : u ∈ (s.setTask t).tasks) : u = t ∨ u ∈ s.tasks := by
  obtain ⟨other, ho, rfl⟩ := List.mem_map.mp h
  split
  · exact Or.inl rfl
  · exact Or.inr ho

lemma eq_of_name_eq (hs : (s.tasks.map Task.name).Nodup) (ht : t ∈ s.tasks) (hu : u ∈ s.tasks)
    (hn : t.name = u.name) : t = u :=
  List.inj_on_of_nodup_map hs ht hu hn

lemma forall₂_setTask (hs : (s.tasks.map Task.name).Nodup) (ht : t ∈ s.tasks) (hk : t.Keeps t') :
    List.Forall₂ Task.Keeps s.tasks (s.setTask t').tasks := by
  rw [setTask_tasks, List.forall₂_map_right_iff]
  apply List.forall₂_same.mpr
  intro u hu
  by_cases hn : u.name = t'.name
  · rw [if_pos hn, eq_of_name_eq hs hu ht (hn.trans hk.name)]
    exact hk
  · rw [if_neg hn]
    exact .refl u

lemma forall₂_refl (tasks : List Task) : List.Forall₂ Task.Keeps tasks tasks :=
  List.forall₂_same.mpr fun t _ => .refl t

lemma tell_eq (s : System) : s.tell = { s with watch := s.tell.watch } := by
  unfold tell
  split <;> rfl

@[simp] lemma tell_tasks (s : System) : s.tell.tasks = s.tasks := by
  rw [tell_eq]

@[simp] lemma tell_settlement (s : System) : s.tell.settlement = s.settlement := by
  rw [tell_eq]

@[simp] lemma tell_delivering (s : System) : s.tell.delivering = s.delivering := by
  rw [tell_eq]

@[simp] lemma tell_reports (s : System) : s.tell.reports = s.reports := by
  rw [tell_eq]

@[simp] lemma tell_returned (s : System) : s.tell.returned = s.returned := by
  rw [tell_eq]

lemma AttemptRule.tasks {name : String} (h : AttemptRule s name panics attempt attempt' s') :
    s'.tasks = s.tasks := by
  cases h with
  | tell _ => exact s.tell_tasks
  | _ => rfl

lemma TaskRule.tasks (h : TaskRule s t action t' s₁) : s₁.tasks = s.tasks := by
  cases h with
  | advanceWorker _ ha | advanceTimer _ ha => exact ha.tasks
  | _ => rfl

lemma mem_cancelUnsettled {name : String} (h : t ∈ (s.cancelUnsettled name).tasks) :
    ∃ u ∈ s.tasks, ∃ cancelled, t = { u with cancelled } := by
  have same (h : t ∈ s.tasks) : ∃ u ∈ s.tasks, ∃ cancelled, t = { u with cancelled } :=
    ⟨t, h, t.cancelled, rfl⟩
  unfold cancelUnsettled at h
  split at h
  · exact same h
  · split at h
    · rename_i u hu
      rcases mem_setTask h with rfl | h
      · exact ⟨u, (task?_eq_some hu).1, true, rfl⟩
      · exact same h
    · exact same h

lemma WatchRule.mem_tasks (h : WatchRule s action s') (ht : t ∈ s'.tasks) :
    ∃ u ∈ s.tasks, ∃ cancelled, t = { u with cancelled } := by
  cases h with
  | sweepNext name names _ => exact mem_cancelUnsettled ht
  | signalAbort _ _ => exact ⟨t, s.tell_tasks ▸ ht, t.cancelled, rfl⟩
  | _ => exact ⟨t, ht, t.cancelled, rfl⟩

lemma untouched_cancelUnsettled (hs : (s.tasks.map Task.name).Nodup) (name : String) :
    Untouched s (s.cancelUnsettled name) := by
  have same : Untouched s s := ⟨rfl, rfl, rfl, rfl, forall₂_refl _⟩
  unfold cancelUnsettled
  split
  · exact same
  · split
    · rename_i t ht
      exact ⟨rfl, rfl, rfl, rfl,
        forall₂_setTask hs (task?_eq_some ht).1 (Task.keeps_cancelled true)⟩
    · exact same

lemma WatchRule.untouched (hs : (s.tasks.map Task.name).Nodup) (h : WatchRule s action s') :
    Untouched s s' := by
  cases h with
  | signalAbort _ _ =>
    exact ⟨s.tell_settlement, s.tell_delivering, s.tell_reports, s.tell_returned,
      s.tell_tasks ▸ forall₂_refl _⟩
  | sweepNext name names _ =>
    obtain ⟨h₁, h₂, h₃, h₄, h₅⟩ := untouched_cancelUnsettled hs name
    exact ⟨h₁, h₂, h₃, h₄, h₅⟩
  | _ => exact ⟨rfl, rfl, rfl, rfl, forall₂_refl _⟩

lemma WatchRule.ne_advance (h : WatchRule s action s') (side : Side) (name : String)
    (panics : Bool) : action ≠ .advance side name panics := by
  rintro rfl
  cases h

lemma TaskRule.effect (hs : (s.tasks.map Task.name).Nodup) (ht : t ∈ s.tasks)
    (h : TaskRule s t action t' s₁) : Effect s action (s₁.setTask t') := by
  have work {work : Work} (hw : t.work.attempt? = none) (hw' : work.attempt? = none ∨
      ∃ outcome duration, work.attempt? = some (.ready outcome duration)) :
      List.Forall₂ Task.Keeps s.tasks (s.setTask { t with work }).tasks :=
    forall₂_setTask hs ht (Task.keeps_work hw hw')
  cases h with
  | submit hw _ | check hw _ | skipCancelled hw _ | create hw _ | createPanicked hw _ =>
    exact .aside nofun ⟨rfl, rfl, rfl, rfl, work (hw ▸ rfl) (Or.inl rfl)⟩
  | take hw _ _ | skipSettled hw _ _ =>
    exact .aside nofun ⟨rfl, rfl, rfl, rfl, work (hw ▸ rfl) (Or.inl rfl)⟩
  | share _ hw _ | createRefused _ hw _ =>
    exact .aside nofun ⟨rfl, rfl, rfl, rfl, work (hw ▸ rfl) (Or.inl rfl)⟩
  | call _ hw | reply _ _ hw =>
    exact .aside nofun ⟨rfl, rfl, rfl, rfl, work (hw ▸ rfl) (Or.inl rfl)⟩
  | time outcome duration hw =>
    exact .aside nofun ⟨rfl, rfl, rfl, rfl, work (hw ▸ rfl) (Or.inr ⟨outcome, duration, rfl⟩)⟩
  | schedule _ he =>
    exact .aside nofun ⟨rfl, rfl, rfl, rfl, forall₂_setTask hs ht
      (Task.keeps_expiry t.cancelled (he ▸ rfl) (Or.inl rfl) (by simp [Task.hasEnded, he]))⟩
  | fire he _ _ =>
    exact .aside nofun ⟨rfl, rfl, rfl, rfl, forall₂_setTask hs ht
      (Task.keeps_expiry t.cancelled (he ▸ rfl) (Or.inr ⟨_, _, rfl⟩)
        (by simp [Task.hasEnded, he]))⟩
  | cancel he =>
    exact .aside nofun ⟨rfl, rfl, rfl, rfl, forall₂_setTask hs ht
      (Task.keeps_expiry true (he ▸ rfl) (Or.inl rfl) (by simp [Task.hasEnded, he]))⟩
  | advanceWorker hw ha => exact .advance ht rfl (by rw [Task.attempt?, hw]; rfl) ha rfl
  | advanceTimer he ha => exact .advance ht rfl (by rw [Task.attempt?, he]; rfl) ha rfl

theorem effect_of_step (hs : (s.tasks.map Task.name).Nodup) (h : s.step action = some s') :
    Effect s action s' := by
  rcases rule_of_step h with ⟨t, ht, t', s₁, hr, rfl⟩ | hr
  · exact hr.effect hs ht
  · exact .aside hr.ne_advance (hr.untouched hs)

def attempt? (s : System) (side : Side) (name : String) : Option Attempt :=
  (s.task? name).bind fun t => t.attempt? side

def hasEnded (s : System) (side : Side) (name : String) : Bool :=
  (s.task? name).any fun t => t.hasEnded side

lemma task?_eq_some_iff (hs : (s.tasks.map Task.name).Nodup) {name : String} :
    s.task? name = some t ↔ t ∈ s.tasks ∧ t.name = name := by
  refine ⟨task?_eq_some, ?_⟩
  rintro ⟨ht, rfl⟩
  obtain ⟨u, hu⟩ : ∃ u, s.task? t.name = some u :=
    Option.isSome_iff_exists.mp (List.find?_isSome.mpr ⟨t, ht, decide_eq_true rfl⟩)
  obtain ⟨hm, hn⟩ := task?_eq_some hu
  rw [hu, eq_of_name_eq hs hm ht hn]

lemma task?_setTask (hs : (s.tasks.map Task.name).Nodup) (ht : t ∈ s.tasks)
    (hn : t'.name = t.name) (name : String) :
    (s.setTask t').task? name = if name = t.name then some t' else s.task? name := by
  have hs' : ((s.setTask t').tasks.map Task.name).Nodup := by rwa [setTask_names]
  apply Option.ext
  intro u
  rw [task?_eq_some_iff hs', mem_setTask_iff hn ht]
  by_cases hname : name = t.name
  · rw [if_pos hname, hname, Option.some.injEq]
    constructor
    · rintro ⟨rfl | ⟨_, hne⟩, hu⟩
      · rfl
      · exact absurd (hu.trans hn.symm) hne
    · rintro rfl
      exact ⟨Or.inl rfl, hn⟩
  · rw [if_neg hname, task?_eq_some_iff hs]
    constructor
    · rintro ⟨rfl | ⟨hu, _⟩, hun⟩
      · exact absurd (hun.symm.trans hn) hname
      · exact ⟨hu, hun⟩
    · rintro ⟨hu, rfl⟩
      exact ⟨Or.inr ⟨hu, hn ▸ hname⟩, rfl⟩

lemma attempt?_of_mem (hs : (s.tasks.map Task.name).Nodup) (ht : t ∈ s.tasks) (side : Side) :
    s.attempt? side t.name = t.attempt? side := by
  rw [attempt?, (task?_eq_some_iff hs).mpr ⟨ht, rfl⟩, Option.bind_some]

lemma attempt?_initial (config : Config) (fresh : Bool) (names : List String) (side : Side)
    (name : String) : (initial config fresh names).attempt? side name = none ∧
      (initial config fresh names).hasEnded side name = false := by
  unfold attempt? hasEnded
  cases ht : (initial config fresh names).task? name with
  | none => exact ⟨rfl, rfl⟩
  | some t =>
    obtain ⟨name, _, rfl⟩ := List.mem_map.mp (task?_eq_some ht).1
    cases side <;> exact ⟨rfl, rfl⟩

lemma names_keeps {tasks tasks' : List Task} (h : List.Forall₂ Task.Keeps tasks tasks') :
    tasks'.map Task.name = tasks.map Task.name := by
  induction h with
  | nil => rfl
  | cons hk _ ih => rw [List.map_cons, List.map_cons, hk.name, ih]

lemma find?_keeps {tasks tasks' : List Task} (h : List.Forall₂ Task.Keeps tasks tasks')
    (name : String) :
    (tasks.find? fun t => t.name = name) = none ∧ (tasks'.find? fun t => t.name = name) = none ∨
      ∃ t t', (tasks.find? fun t => t.name = name) = some t ∧
        (tasks'.find? fun t => t.name = name) = some t' ∧ t.Keeps t' := by
  induction h with
  | nil => exact Or.inl ⟨rfl, rfl⟩
  | @cons t t' _ _ hk _ ih =>
    simp only [List.find?_cons, hk.name]
    by_cases hn : t.name = name
    · simp only [hn, decide_true]
      exact Or.inr ⟨t, t', rfl, rfl, hk⟩
    · simp only [hn, decide_false]
      exact ih

namespace Untouched

lemma names (h : Untouched s s') : s'.tasks.map Task.name = s.tasks.map Task.name :=
  names_keeps h.tasks

lemma attempt?_eq (h : Untouched s s') (side : Side) (name : String) :
    s'.attempt? side name = s.attempt? side name ∨ s.attempt? side name = none ∧
      ∃ outcome duration, s'.attempt? side name = some (.ready outcome duration) := by
  rcases find?_keeps h.tasks name with ⟨hn, hn'⟩ | ⟨t, t', ht, ht', hk⟩
  · left
    simp only [attempt?, task?, hn, hn']
  · simp only [attempt?, task?, ht, ht', Option.bind_some]
    exact hk.attempt side

lemma attempt?_old {name : String} (h : Untouched s s')
    (ha : s'.attempt? side name = some attempt)
    (hr : ∀ outcome duration, attempt ≠ .ready outcome duration) :
    s.attempt? side name = some attempt := by
  rcases h.attempt?_eq side name with he | ⟨_, outcome, duration, hn⟩
  · rw [← he, ha]
  · rw [ha] at hn
    exact absurd (Option.some.inj hn) (hr outcome duration)

lemma attempt?_kept {name : String} (h : Untouched s s')
    (ha : s.attempt? side name = some attempt) : s'.attempt? side name = some attempt := by
  rcases h.attempt?_eq side name with he | ⟨hnone, _⟩
  · rw [he, ha]
  · rw [ha] at hnone
    cases hnone

lemma hasEnded_eq (h : Untouched s s') (side : Side) (name : String) :
    s'.hasEnded side name = s.hasEnded side name := by
  rcases find?_keeps h.tasks name with ⟨hn, hn'⟩ | ⟨t, t', ht, ht', hk⟩
  · simp only [hasEnded, task?, hn, hn']
  · simp only [hasEnded, task?, ht, ht', Option.any_some]
    exact hk.ended side

end Untouched

section Resumed

variable (hs : (s.tasks.map Task.name).Nodup) (ht : t ∈ s.tasks) (h₁ : s₁.tasks = s.tasks)

include hs ht h₁

lemma task?_resumed (side : Side) (attempt : Attempt) (name : String) :
    (s₁.setTask (t.resume side attempt)).task? name =
      if name = t.name then some (t.resume side attempt) else s.task? name := by
  rw [← h₁] at hs ht
  rw [task?_setTask hs ht (t.resume_name side attempt), task?, task?, h₁]

lemma attempt?_resumed (side : Side) (ho : attempt.isOver = false) :
    (s₁.setTask (t.resume side attempt)).attempt? side t.name = some attempt := by
  rw [attempt?, task?_resumed hs ht h₁, if_pos rfl, Option.bind_some, Task.attempt?_resume ho]

lemma eq_of_attempt?_resumed
    (h : (s₁.setTask (t.resume side attempt)).attempt? side t.name = some attempt') :
    attempt' = attempt := by
  rw [attempt?, task?_resumed hs ht h₁, if_pos rfl, Option.bind_some] at h
  exact Task.eq_of_attempt?_resume h

lemma hasEnded_resumed (side : Side) (attempt : Attempt) :
    (s₁.setTask (t.resume side attempt)).hasEnded side t.name = attempt.isOver := by
  rw [hasEnded, task?_resumed hs ht h₁, if_pos rfl, Option.any_some, Task.hasEnded_resume]

lemma resumed_of_ne {other : Side} {name : String} (hne : (other, name) ≠ (side, t.name))
    (attempt : Attempt) :
    (s₁.setTask (t.resume side attempt)).attempt? other name = s.attempt? other name ∧
      (s₁.setTask (t.resume side attempt)).hasEnded other name = s.hasEnded other name := by
  simp only [attempt?, hasEnded, task?_resumed hs ht h₁]
  by_cases hn : name = t.name
  · have hside : other ≠ side := by
      rintro rfl
      exact hne (by rw [hn])
    rw [if_pos hn, hn, (task?_eq_some_iff hs).mpr ⟨ht, rfl⟩]
    exact Task.resume_of_ne hside t attempt
  · rw [if_neg hn]
    exact ⟨rfl, rfl⟩

lemma resumed_cases {other : Side} {name : String}
    (h : (s₁.setTask (t.resume side attempt)).attempt? other name = some attempt') :
    (other = side ∧ name = t.name ∧ attempt' = attempt) ∨
      ((other, name) ≠ (side, t.name) ∧ s.attempt? other name = some attempt') := by
  by_cases hne : (other, name) = (side, t.name)
  · obtain ⟨rfl, rfl⟩ := Prod.mk.inj hne
    exact Or.inl ⟨rfl, rfl, eq_of_attempt?_resumed hs ht h₁ h⟩
  · rw [(resumed_of_ne hs ht h₁ hne attempt).1] at h
    exact Or.inr ⟨hne, h⟩

lemma ended_cases {other : Side} {name : String}
    (h : (s₁.setTask (t.resume side attempt)).hasEnded other name = true) :
    (other = side ∧ name = t.name ∧ attempt.isOver = true) ∨ s.hasEnded other name = true := by
  by_cases hne : (other, name) = (side, t.name)
  · obtain ⟨rfl, rfl⟩ := Prod.mk.inj hne
    rw [hasEnded_resumed hs ht h₁] at h
    exact Or.inl ⟨rfl, rfl, h⟩
  · rw [(resumed_of_ne hs ht h₁ hne attempt).2] at h
    exact Or.inr h

end Resumed

end System

end ClassBatch.Batch
