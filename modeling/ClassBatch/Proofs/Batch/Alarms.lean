import ClassBatch.Batch.Timer
import Mathlib.Data.List.Basic
import Mathlib.Data.List.Perm.Basic
import Mathlib.Tactic.Lemma

/-! The queue of a timer: its order, the numbers of the actions in it, and the rounds of the timer. -/

namespace ClassBatch.Batch

variable {α : Type} {a b c : Alarm α} {queue : List (Alarm α)}

namespace Alarm

lemma precedes_iff : a.precedes b = true ↔
    a.deadline < b.deadline ∨ a.deadline = b.deadline ∧ a.arrival < b.arrival := by
  simp [precedes]

lemma precedes_trans (hab : a.precedes b = true) (hbc : b.precedes c = true) :
    a.precedes c = true := by
  rw [precedes_iff] at *
  omega

lemma deadline_le_of_precedes (h : a.precedes b = true) : a.deadline ≤ b.deadline := by
  rw [precedes_iff] at h
  omega

lemma precedes_of_not (h : a.precedes b = false) (harrival : b.arrival < a.arrival) :
    b.precedes a = true := by
  rw [Bool.eq_false_iff, ne_eq, precedes_iff] at h
  rw [precedes_iff]
  omega

lemma not_precedes_of_precedes (h : a.precedes b = true) : b.precedes a = false := by
  rw [Bool.eq_false_iff, ne_eq, precedes_iff]
  rw [precedes_iff] at h
  omega

def numbered (n : Nat) : List (Int × α) → List (Alarm α)
  | [] => []
  | (deadline, action) :: calls => ⟨deadline, n, action⟩ :: numbered (n + 1) calls

lemma numbered_append (n : Nat) (calls others : List (Int × α)) :
    numbered n (calls ++ others) = numbered n calls ++ numbered (n + calls.length) others := by
  induction calls generalizing n with
  | nil => rfl
  | cons call calls ih =>
    rw [List.cons_append, numbered, ih, numbered, List.cons_append, List.length_cons,
      Nat.add_right_comm, Nat.add_assoc]

lemma arrival_of_mem_numbered {n : Nat} {calls : List (Int × α)} (h : a ∈ numbered n calls) :
    n ≤ a.arrival ∧ a.arrival < n + calls.length := by
  induction calls generalizing n with
  | nil => cases h
  | cons call calls ih =>
    rw [numbered, List.mem_cons] at h
    rw [List.length_cons]
    rcases h with rfl | h
    · exact ⟨Nat.le_refl n, by dsimp only; omega⟩
    · have hbounds := ih h
      omega

lemma numbered_nodup (n : Nat) (calls : List (Int × α)) : (numbered n calls).Nodup := by
  induction calls generalizing n with
  | nil => exact List.nodup_nil
  | cons call calls ih =>
    refine List.nodup_cons.mpr ⟨fun h => ?_, ih (n + 1)⟩
    exact absurd (arrival_of_mem_numbered h).1 (Nat.not_succ_le_self n)

lemma mem_of_mem_numbered {n : Nat} {calls : List (Int × α)} (h : a ∈ numbered n calls) :
    (a.deadline, a.action) ∈ calls := by
  induction calls generalizing n with
  | nil => cases h
  | cons call calls ih =>
    rw [numbered, List.mem_cons] at h
    rcases h with rfl | h
    · exact List.mem_cons_self
    · exact List.mem_cons_of_mem _ (ih h)

lemma map_action_numbered (n : Nat) (calls : List (Int × α)) :
    (numbered n calls).map Alarm.action = calls.map Prod.snd := by
  induction calls generalizing n with
  | nil => rfl
  | cons call calls ih => rw [numbered, List.map_cons, List.map_cons, ih]

lemma mem_numbered_append {n : Nat} {calls others : List (Int × α)} :
    a ∈ numbered n calls ↔ a ∈ numbered n (calls ++ others) ∧ a.arrival < n + calls.length := by
  rw [numbered_append, List.mem_append]
  constructor
  · exact fun h => ⟨Or.inl h, (arrival_of_mem_numbered h).2⟩
  · rintro ⟨h | h, hlt⟩
    · exact h
    · exact absurd hlt (Nat.not_lt_of_le (arrival_of_mem_numbered h).1)

end Alarm

def Arrival.message? : Arrival α → Option (Int × α)
  | .message deadline action => some (deadline, action)
  | _ => none

namespace Timer

open Alarm

def Sorted (queue : List (Alarm α)) : Prop :=
  queue.Pairwise fun a b => a.precedes b = true

lemma insert_perm (a : Alarm α) (queue : List (Alarm α)) : (insert a queue).Perm (a :: queue) := by
  induction queue with
  | nil => exact List.Perm.refl _
  | cons b queue ih =>
    rw [insert]
    split
    · exact List.Perm.refl _
    · exact (ih.cons b).trans (List.Perm.swap a b queue)

lemma insert_sorted (h : Sorted queue) (hlast : ∀ b ∈ queue, b.arrival < a.arrival) :
    Sorted (insert a queue) := by
  induction queue with
  | nil => exact List.pairwise_singleton _ _
  | cons b queue ih =>
    obtain ⟨hb, hqueue⟩ := List.pairwise_cons.mp h
    rw [List.forall_mem_cons] at hlast
    rw [insert]
    split
    · rename_i hab
      refine List.pairwise_cons.mpr ⟨List.forall_mem_cons.mpr ⟨hab, fun c hc => ?_⟩, h⟩
      exact precedes_trans hab (hb c hc)
    · rename_i hab
      refine List.pairwise_cons.mpr ⟨fun c hc => ?_, ih hqueue hlast.2⟩
      rcases List.mem_cons.mp ((insert_perm a queue).subset hc) with rfl | hc
      · exact precedes_of_not (Bool.eq_false_iff.mpr hab) hlast.1
      · exact hb c hc

lemma insert_eq_append (h : ∀ b ∈ queue, b.precedes a = true) : insert a queue = queue ++ [a] := by
  induction queue with
  | nil => rfl
  | cons b queue ih =>
    rw [List.forall_mem_cons] at h
    rw [insert, not_precedes_of_precedes h.1, if_neg Bool.false_ne_true, ih h.2, List.cons_append]

lemma sorted_numbered (n : Nat) {calls : List (Int × α)}
    (h : (calls.map Prod.fst).Pairwise (· ≤ ·)) : Sorted (numbered n calls) := by
  induction calls generalizing n with
  | nil => exact List.Pairwise.nil
  | cons call calls ih =>
    obtain ⟨hfirst, hrest⟩ := List.pairwise_cons.mp h
    refine List.pairwise_cons.mpr ⟨fun b hb => ?_, ih (n + 1) hrest⟩
    have hdeadline := hfirst b.deadline (List.mem_map_of_mem (mem_of_mem_numbered hb))
    have hbounds := arrival_of_mem_numbered hb
    rw [precedes_iff]
    dsimp only
    omega

lemma Sorted.forall_lt {now : Int} (h : Sorted (a :: queue)) (ha : now < a.deadline) :
    ∀ b ∈ a :: queue, now < b.deadline := by
  rw [List.forall_mem_cons]
  refine ⟨ha, fun b hb => ?_⟩
  exact Int.lt_of_lt_of_le ha (deadline_le_of_precedes (List.rel_of_pairwise_cons h hb))

variable {t : Timer α} {now : Int} {n : Nat}

lemma fire_nil : (⟨[], n⟩ : Timer α).fire now = ([], ⟨[], n⟩) := rfl

lemma fire_of_lt (h : now < a.deadline) :
    (⟨a :: queue, n⟩ : Timer α).fire now = ([], ⟨a :: queue, n⟩) := by
  simp [fire, due, Int.not_le.mpr h]

lemma fire_of_le (h : a.deadline ≤ now) : (⟨a :: queue, n⟩ : Timer α).fire now =
    (⟨a, now⟩ :: ((⟨queue, n⟩ : Timer α).fire now).1, ((⟨queue, n⟩ : Timer α).fire now).2) := by
  simp [fire, due, h]

def messages (rounds : List (Round α)) : List (Int × α) :=
  rounds.filterMap (·.arrival.message?)

lemma messages_cons (round : Round α) (rounds : List (Round α)) :
    messages (round :: rounds) = round.arrival.message?.toList ++ messages rounds := by
  rw [messages, List.filterMap_cons, messages]
  cases round.arrival.message? <;> rfl

lemma messages_concat (rounds : List (Round α)) (round : Round α) :
    messages (rounds ++ [round]) = messages rounds ++ round.arrival.message?.toList := by
  rw [messages, List.filterMap_append]
  exact congrArg (messages rounds ++ ·) ((messages_cons round []).trans (List.append_nil _))

def Ongoing (rounds : List (Round α)) : Prop :=
  ∀ round ∈ rounds, round.arrival ≠ .closed

def after (t : Timer α) : Arrival α → Timer α
  | .message deadline action => t.receive deadline action
  | _ => t

lemma run_append {rounds : List (Round α)} (h : Ongoing rounds) (later : List (Round α))
    (t : Timer α) : t.run (rounds ++ later) =
      ((t.run rounds).1 ++ ((t.run rounds).2.run later).1, ((t.run rounds).2.run later).2) := by
  induction rounds generalizing t with
  | nil => rfl
  | cons first rounds ih =>
    rw [Ongoing, List.forall_mem_cons] at h
    rw [List.cons_append, run, run]
    cases hfirst : first.arrival with
    | closed => exact absurd hfirst h.1
    | elapsed => simp only [ih h.2, List.append_assoc]
    | message deadline action => simp only [ih h.2, List.append_assoc]

lemma run_singleton (round : Round α) (t : Timer α) :
    t.run [round] = ((t.fire round.now).1, (t.fire round.now).2.after round.arrival) := by
  rw [run]
  cases hround : round.arrival <;> simp [run, after]

lemma run_concat {rounds : List (Round α)} (h : Ongoing rounds) (round : Round α) (t : Timer α) :
    t.run (rounds ++ [round]) =
      ((t.run rounds).1 ++ ((t.run rounds).2.fire round.now).1,
        ((t.run rounds).2.fire round.now).2.after round.arrival) := by
  rw [run_append h, run_singleton]

end Timer

end ClassBatch.Batch
