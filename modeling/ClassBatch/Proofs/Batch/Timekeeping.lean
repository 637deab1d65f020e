import ClassBatch.Batch.Timekeeper
import ClassBatch.Proofs.Batch.Alarms
import Mathlib.Data.List.Nodup

/-! What a timer runs, in which order, and what becomes of the actions that it does not run. -/

namespace ClassBatch.Batch.Timekeeper

open Alarm Timer

variable {α : Type} {s s' : Timekeeper α} {move : Move α}

inductive Rule (s : Timekeeper α) : Move α → Timekeeper α → Prop
  | send (deadline : Int) (action : α) : s.isOpen = true →
      Rule s (.schedule deadline action)
        { s with
          calls := s.calls ++ [(deadline, action)]
          mailbox := s.mailbox ++ [(deadline, action)] }
  | drop (deadline : Int) (action : α) : s.isOpen = false →
      Rule s (.schedule deadline action)
        { s with
          calls := s.calls ++ [(deadline, action)]
          discards := s.discards ++ [⟨deadline, s.calls.length, action⟩] }
  | hangUp : Rule s .hangUp { s with isOpen := false }
  | join : s.stage = .over → Rule s .join { s with isShut := true }
  | read (now : Int) : s.stage = .idle → s.clock ≤ now →
      Rule s (.read now) { s with stage := .looking now, clock := now }
  | act (now : Int) (a : Alarm α) (queue : List (Alarm α)) : s.stage = .looking now →
      s.timer.queue = a :: queue → a.deadline ≤ now →
      Rule s .act
        { s with
          stage := .acting now
          timer := { s.timer with queue }
          firings := s.firings ++ [⟨a, now⟩] }
  | finish (now : Int) : s.stage = .acting now → Rule s .finish { s with stage := .looking now }
  | rest (now again : Int) : s.stage = .looking now → s.timer.queue = [] →
      Rule s (.wait again) { s with stage := .waiting now none }
  | wait (now again : Int) (a : Alarm α) (queue : List (Alarm α)) : s.stage = .looking now →
      s.timer.queue = a :: queue → now < a.deadline → s.clock ≤ again →
      Rule s (.wait again)
        { s with clock := again, stage := .waiting now (some (max 0 (a.deadline - again))) }
  | receive (now : Int) (patience : Option Int) (deadline : Int) (action : α)
      (mailbox : List (Int × α)) : s.stage = .waiting now patience →
      s.mailbox = (deadline, action) :: mailbox →
      Rule s .receive
        { s with
          stage := .idle
          mailbox
          timer := s.timer.receive deadline action
          rounds := s.rounds ++ [⟨now, .message deadline action⟩] }
  | elapse (now patience : Int) : s.stage = .waiting now (some patience) →
      Rule s .elapse { s with stage := .idle, rounds := s.rounds ++ [⟨now, .elapsed⟩] }
  | stop (now : Int) (patience : Option Int) : s.stage = .waiting now patience →
      s.mailbox = [] → s.isOpen = false →
      Rule s .stop
        { s with
          stage := .over
          timer := { s.timer with queue := [] }
          rounds := s.rounds ++ [⟨now, .closed⟩]
          discards := s.discards ++ s.timer.queue }

lemma rule_of_step (h : s.step move = some s') : Rule s move s' := by
  cases move with
  | schedule deadline action =>
    simp only [step] at h
    split at h
    · cases h
      exact .send deadline action ‹_›
    · cases h
      exact .drop deadline action (Bool.eq_false_iff.mpr ‹_›)
  | hangUp =>
    cases h
    exact .hangUp
  | join =>
    simp only [step, Option.ite_none_right_eq_some] at h
    obtain ⟨hstage, he⟩ := h
    cases he
    exact .join hstage
  | read now =>
    simp only [step, Option.ite_none_right_eq_some] at h
    obtain ⟨⟨hstage, hclock⟩, he⟩ := h
    cases he
    exact .read now hstage hclock
  | act =>
    simp only [step] at h
    split at h
    · rename_i now a queue hstage hqueue
      obtain ⟨hdue, he⟩ := Option.ite_none_right_eq_some.mp h
      cases he
      exact .act now a queue hstage hqueue hdue
    · cases h
  | finish =>
    simp only [step] at h
    split at h
    · cases h
      exact .finish _ ‹_›
    · cases h
  | wait again =>
    simp only [step] at h
    split at h
    · cases h
      exact .rest _ again ‹_› ‹_›
    · rename_i now a queue hstage hqueue
      obtain ⟨⟨hnow, hclock⟩, he⟩ := Option.ite_none_right_eq_some.mp h
      cases he
      exact .wait now again a queue hstage hqueue hnow hclock
    · cases h
  | receive =>
    simp only [step] at h
    split at h
    · cases h
      exact .receive _ _ _ _ _ ‹_› ‹_›
    · cases h
  | elapse =>
    simp only [step] at h
    split at h
    · cases h
      exact .elapse _ _ ‹_›
    · cases h
  | stop =>
    simp only [step] at h
    split at h
    · cases h
      exact .stop _ _ ‹_› ‹_› ‹_›
    · cases h

def ran (s : Timekeeper α) : List (Alarm α) :=
  s.firings.map Firing.alarm

/-- Every action that was scheduled is in one place, and those in the queue are in order. -/
structure Booked (s : Timekeeper α) : Prop where
  conserved : (ran s ++ (s.timer.queue ++
    (numbered s.timer.arrivals s.mailbox ++ s.discards))).Perm (numbered 0 s.calls)
  counted : (messages s.rounds).length = s.timer.arrivals
  sent : messages s.rounds ++ s.mailbox <+: s.calls
  sent_all : s.isOpen = true → messages s.rounds ++ s.mailbox = s.calls
  kept_all : s.isOpen = true → s.discards = []
  received : ∀ a ∈ ran s ++ s.timer.queue, a.arrival < s.timer.arrivals
  sorted : Sorted s.timer.queue

namespace Booked

lemma initial (clock : Int) : Booked ({ clock } : Timekeeper α) :=
  ⟨List.Perm.refl _, rfl, List.prefix_refl _, fun _ => rfl, fun _ => rfl, List.forall_mem_nil _,
    List.Pairwise.nil⟩

lemma length_sent (h : Booked s) :
    (messages s.rounds ++ s.mailbox).length = s.timer.arrivals + s.mailbox.length := by
  rw [List.length_append, h.counted]

lemma send (h : Booked s) (hopen : s.isOpen = true) (deadline : Int) (action : α) :
    Booked { s with
      calls := s.calls ++ [(deadline, action)]
      mailbox := s.mailbox ++ [(deadline, action)] } := by
  have hall := h.sent_all hopen
  have hnext : messages s.rounds ++ (s.mailbox ++ [(deadline, action)]) =
      s.calls ++ [(deadline, action)] := by
    rw [← List.append_assoc, hall]
  refine ⟨?_, h.counted, hnext ▸ List.prefix_refl _, fun _ => hnext, h.kept_all, h.received,
    h.sorted⟩
  have hconserved := h.conserved.append_right (numbered s.calls.length [(deadline, action)])
  change (ran s ++ (s.timer.queue ++ (numbered s.timer.arrivals
    (s.mailbox ++ [(deadline, action)]) ++ s.discards))).Perm _
  rw [h.kept_all hopen, List.append_nil] at hconserved ⊢
  rw [numbered_append, numbered_append, ← h.length_sent, hall, Nat.zero_add]
  simpa only [List.append_assoc] using hconserved

lemma drop (h : Booked s) (hshut : s.isOpen = false) (deadline : Int) (action : α) :
    Booked { s with
      calls := s.calls ++ [(deadline, action)]
      discards := s.discards ++ [⟨deadline, s.calls.length, action⟩] } := by
  have hnever : s.isOpen ≠ true := Bool.eq_false_iff.mp hshut
  refine ⟨?_, h.counted, h.sent.trans (List.prefix_append _ _), fun hopen => absurd hopen hnever,
    fun hopen => absurd hopen hnever, h.received, h.sorted⟩
  have hconserved := h.conserved.append_right (numbered s.calls.length [(deadline, action)])
  change (ran s ++ (s.timer.queue ++ (numbered s.timer.arrivals s.mailbox ++
    (s.discards ++ numbered s.calls.length [(deadline, action)])))).Perm _
  rw [numbered_append, Nat.zero_add]
  simpa only [List.append_assoc] using hconserved

lemma act {now : Int} {a : Alarm α} {queue : List (Alarm α)} (h : Booked s)
    (hqueue : s.timer.queue = a :: queue) (stage : Stage) :
    Booked { s with
      stage
      timer := { s.timer with queue }
      firings := s.firings ++ [⟨a, now⟩] } := by
  have hconserved := h.conserved
  have hreceived := h.received
  have hsorted := h.sorted
  rw [hqueue] at hconserved hreceived hsorted
  refine ⟨?_, h.counted, h.sent, h.sent_all, h.kept_all, ?_, hsorted.of_cons⟩
  · simpa [ran] using hconserved
  · simpa [ran] using hreceived

lemma receive {deadline : Int} {action : α} {mailbox : List (Int × α)} (h : Booked s)
    (hmailbox : s.mailbox = (deadline, action) :: mailbox) (stage : Stage) (now : Int) :
    Booked { s with
      stage
      mailbox
      timer := s.timer.receive deadline action
      rounds := s.rounds ++ [⟨now, .message deadline action⟩] } := by
  let a : Alarm α := ⟨deadline, s.timer.arrivals, action⟩
  have hqueue : (insert a s.timer.queue).Perm (a :: s.timer.queue) := insert_perm a s.timer.queue
  have hmessages : messages (s.rounds ++ [⟨now, .message deadline action⟩]) =
      messages s.rounds ++ [(deadline, action)] := messages_concat _ _
  have hsent : messages s.rounds ++ s.mailbox =
      messages (s.rounds ++ [⟨now, .message deadline action⟩]) ++ mailbox := by
    rw [hmessages, hmailbox, List.append_assoc, List.singleton_append]
  refine ⟨?_, ?_, hsent ▸ h.sent, fun hopen => hsent ▸ h.sent_all hopen, h.kept_all, fun b hb => ?_,
    ?_⟩
  · have hconserved := h.conserved
    rw [hmailbox] at hconserved
    refine List.Perm.trans (List.Perm.append_left (ran s) ?_) hconserved
    exact (hqueue.append_right _).trans List.perm_middle.symm
  · rw [hmessages, List.length_append, h.counted]
    rfl
  · change b.arrival < s.timer.arrivals + 1
    rcases List.mem_append.mp hb with hb | hb
    · exact Nat.lt_succ_of_lt (h.received b (List.mem_append_left _ hb))
    · rcases List.mem_cons.mp (hqueue.subset hb) with rfl | hb
      · exact Nat.lt_succ_self _
      · exact Nat.lt_succ_of_lt (h.received b (List.mem_append_right _ hb))
  · exact insert_sorted h.sorted fun b hb => h.received b (List.mem_append_right _ hb)

lemma turn (h : Booked s) (stage : Stage) {round : Round α} (hround : round.arrival.message? = none) :
    Booked { s with stage, rounds := s.rounds ++ [round] } := by
  have hmessages : messages (s.rounds ++ [round]) = messages s.rounds := by
    rw [messages_concat, hround, Option.toList_none, List.append_nil]
  exact ⟨h.conserved, hmessages ▸ h.counted, hmessages ▸ h.sent, hmessages ▸ h.sent_all, h.kept_all,
    h.received, h.sorted⟩

lemma clear (h : Booked s) (hmailbox : s.mailbox = []) (hshut : s.isOpen = false) :
    Booked { s with
      timer := { s.timer with queue := [] }
      discards := s.discards ++ s.timer.queue } := by
  refine ⟨?_, h.counted, h.sent, h.sent_all,
    fun hopen => absurd hopen (Bool.eq_false_iff.mp hshut), fun a ha => ?_, List.Pairwise.nil⟩
  · have hempty : numbered s.timer.arrivals s.mailbox = [] := by rw [hmailbox, numbered]
    have hconserved := h.conserved
    change (ran s ++ (numbered s.timer.arrivals s.mailbox ++
      (s.discards ++ s.timer.queue))).Perm _
    rw [hempty, List.nil_append] at hconserved ⊢
    exact List.Perm.trans (List.Perm.append_left (ran s) List.perm_append_comm) hconserved
  · exact h.received a (List.mem_append_left _ (by simpa [ran] using ha))

lemma rule (h : Booked s) (hrule : Rule s move s') : Booked s' := by
  cases hrule with
  | send deadline action hopen => exact h.send hopen deadline action
  | drop deadline action hshut => exact h.drop hshut deadline action
  | hangUp =>
    exact ⟨h.conserved, h.counted, h.sent, fun hopen => Bool.noConfusion hopen,
      fun hopen => Bool.noConfusion hopen, h.received, h.sorted⟩
  | act now a queue hstage hqueue hdue => exact h.act hqueue _
  | receive now patience deadline action mailbox hstage hmailbox => exact h.receive hmailbox _ now
  | elapse now patience hstage => exact h.turn _ rfl
  | stop now patience hstage hmailbox hshut => exact (h.turn _ rfl).clear hmailbox hshut
  | join | read | finish | rest | wait =>
    exact ⟨h.conserved, h.counted, h.sent, h.sent_all, h.kept_all, h.received, h.sorted⟩

end Booked

structure Staged (s : Timekeeper α) : Prop where
  due : ∀ f ∈ s.firings, f.alarm.deadline ≤ f.now
  current : ∀ now, s.stage = .looking now ∨ s.stage = .acting now → s.clock = now
  quiet : ∀ now patience, s.stage = .waiting now patience →
    ∀ a ∈ s.timer.queue, now < a.deadline
  unreceived : s.stage ≠ .over → ∀ a ∈ s.discards, s.timer.arrivals + s.mailbox.length ≤ a.arrival
  ended : s.stage = .over → s.isOpen = false ∧ s.timer.queue = [] ∧ s.mailbox = []
  shut : s.isShut = true → s.stage = .over

namespace Staged

lemma initial (clock : Int) : Staged ({ clock } : Timekeeper α) where
  due := List.forall_mem_nil _
  current _ h := by simp at h
  quiet _ _ h := Stage.noConfusion h
  unreceived _ := List.forall_mem_nil _
  ended h := Stage.noConfusion h
  shut h := Bool.noConfusion h

lemma turn (h : Staged s) (hstage : s.stage ≠ .over) (hstage' : s'.stage ≠ .over)
    (hshut : s'.isShut = s.isShut) (hdiscards : s'.discards = s.discards)
    (hcount : s'.timer.arrivals + s'.mailbox.length = s.timer.arrivals + s.mailbox.length)
    (hdue : ∀ f ∈ s'.firings, f.alarm.deadline ≤ f.now)
    (hcurrent : ∀ now, s'.stage = .looking now ∨ s'.stage = .acting now → s'.clock = now)
    (hquiet : ∀ now patience, s'.stage = .waiting now patience →
      ∀ a ∈ s'.timer.queue, now < a.deadline) : Staged s' where
  due := hdue
  current := hcurrent
  quiet := hquiet
  unreceived _ := by
    rw [hdiscards, hcount]
    exact h.unreceived hstage
  ended he := absurd he hstage'
  shut he := absurd (h.shut (hshut ▸ he)) hstage

lemma rule (h : Staged s) (hbooked : Booked s) (hrule : Rule s move s') : Staged s' := by
  cases hrule with
  | send deadline action hopen =>
    refine ⟨h.due, h.current, h.quiet, fun _ => ?_, fun hstage => ?_, h.shut⟩
    · rw [hbooked.kept_all hopen]
      exact List.forall_mem_nil _
    · cases (h.ended hstage).1.symm.trans hopen
  | drop deadline action hshut =>
    refine ⟨h.due, h.current, h.quiet, fun hstage a ha => ?_, h.ended, h.shut⟩
    rcases List.mem_append.mp ha with ha | ha
    · exact h.unreceived hstage a ha
    · rw [List.mem_singleton.mp ha, ← hbooked.length_sent]
      exact hbooked.sent.length_le
  | hangUp =>
    exact ⟨h.due, h.current, h.quiet, h.unreceived, fun hstage => ⟨rfl, (h.ended hstage).2⟩, h.shut⟩
  | join hstage => exact ⟨h.due, h.current, h.quiet, h.unreceived, h.ended, fun _ => hstage⟩
  | read now hstage hclock =>
    exact h.turn (by simp [hstage]) (by simp) rfl rfl rfl h.due (by simp) (by simp)
  | act now a queue hstage hqueue hdue =>
    have hcurrent := h.current now (Or.inl hstage)
    refine h.turn (by simp [hstage]) (by simp) rfl rfl rfl (fun f hf => ?_) (by simp [hcurrent])
      (by simp)
    rcases List.mem_append.mp hf with hf | hf
    · exact h.due f hf
    · rw [List.mem_singleton.mp hf]
      exact hdue
  | finish now hstage =>
    have hcurrent := h.current now (Or.inr hstage)
    exact h.turn (by simp [hstage]) (by simp) rfl rfl rfl h.due (by simp [hcurrent]) (by simp)
  | rest now again hstage hqueue =>
    refine h.turn (by simp [hstage]) (by simp) rfl rfl rfl h.due (by simp) fun _ _ _ a ha => ?_
    rw [hqueue] at ha
    cases ha
  | wait now again a queue hstage hqueue hdue hclock =>
    refine h.turn (by simp [hstage]) (by simp) rfl rfl rfl h.due (by simp)
      fun now' patience he b hb => ?_
    cases he
    have hsorted := hbooked.sorted
    rw [hqueue] at hb hsorted
    exact hsorted.forall_lt hdue b hb
  | receive now patience deadline action mailbox hstage hmailbox =>
    refine h.turn (by simp [hstage]) (by simp) rfl rfl ?_ h.due (by simp) (by simp)
    change s.timer.arrivals + 1 + mailbox.length = s.timer.arrivals + s.mailbox.length
    rw [hmailbox, List.length_cons]
    omega
  | elapse now patience hstage =>
    exact h.turn (by simp [hstage]) (by simp) rfl rfl rfl h.due (by simp) (by simp)
  | stop now patience hstage hmailbox hshut =>
    exact ⟨h.due, fun _ he => by simp at he, fun _ _ he => Stage.noConfusion he,
      fun he => absurd rfl he, fun _ => ⟨hshut, rfl, hmailbox⟩, fun _ => rfl⟩

end Staged

def played (s : Timekeeper α) : List (Firing α) × Timer α :=
  ({} : Timer α).run s.rounds

def playedUntil (s : Timekeeper α) (now : Int) : List (Firing α) × Timer α :=
  ((played s).1 ++ ((played s).2.fire now).1, ((played s).2.fire now).2)

def Tracked (s : Timekeeper α) : Prop :=
  match s.stage with
  | .idle => Ongoing s.rounds ∧ played s = (s.firings, s.timer)
  | .looking now | .acting now => Ongoing s.rounds ∧
      playedUntil s now = (s.firings ++ (s.timer.fire now).1, (s.timer.fire now).2)
  | .waiting now _ => Ongoing s.rounds ∧ playedUntil s now = (s.firings, s.timer)
  | .over => (played s).1 = s.firings

namespace Tracked

lemma initial (clock : Int) : Tracked ({ clock } : Timekeeper α) :=
  ⟨List.forall_mem_nil _, rfl⟩

lemma of_stage {stage : Stage} (h : Tracked s) (hstage : s.stage = stage) :
    Tracked { s with stage } := by
  rwa [← hstage]

lemma concat {now : Int} {patience : Option Int} (h : Tracked s)
    (hstage : s.stage = .waiting now patience) (arrival : Arrival α) :
    ({} : Timer α).run (s.rounds ++ [⟨now, arrival⟩]) = (s.firings, s.timer.after arrival) ∧
      (arrival ≠ .closed → Ongoing (s.rounds ++ [⟨now, arrival⟩])) := by
  obtain ⟨hongoing, hplayed⟩ := h.of_stage hstage
  obtain ⟨hfirings, htimer⟩ := Prod.mk.inj hplayed
  refine ⟨?_, fun hopen => ?_⟩
  · rw [run_concat hongoing]
    exact Prod.ext hfirings (congrArg (Timer.after · arrival) htimer)
  · rw [Ongoing, List.forall_mem_append, List.forall_mem_singleton]
    exact ⟨hongoing, hopen⟩

lemma settle {now : Int} (h : Tracked s) (hstage : s.stage = .looking now)
    (hquiet : s.timer.fire now = ([], s.timer)) (clock : Int) (patience : Option Int) :
    Tracked { s with clock, stage := .waiting now patience } := by
  obtain ⟨hongoing, hplayed⟩ := h.of_stage hstage
  change playedUntil s now = (s.firings ++ (s.timer.fire now).1, (s.timer.fire now).2) at hplayed
  rw [hquiet, List.append_nil] at hplayed
  exact ⟨hongoing, hplayed⟩

lemma rule (h : Tracked s) (hrule : Rule s move s') : Tracked s' := by
  cases hrule with
  | read now hstage hclock =>
    obtain ⟨hongoing, hplayed⟩ := h.of_stage hstage
    refine ⟨hongoing, ?_⟩
    change ((played s).1 ++ ((played s).2.fire now).1, ((played s).2.fire now).2) = _
    rw [show played s = (s.firings, s.timer) from hplayed]
  | act now a queue hstage hqueue hdue =>
    -- the action that is run now is the first of those that the whole round is to run
    obtain ⟨hongoing, hplayed⟩ := h.of_stage hstage
    have htimer : s.timer = ⟨a :: queue, s.timer.arrivals⟩ := by rw [← hqueue]
    refine ⟨hongoing, hplayed.trans ?_⟩
    change (s.firings ++ (s.timer.fire now).1, (s.timer.fire now).2) = _
    rw [htimer, fire_of_le hdue, List.append_assoc, List.singleton_append]
  | finish now hstage =>
    obtain ⟨hongoing, hplayed⟩ := h.of_stage hstage
    exact ⟨hongoing, hplayed⟩
  | rest now again hstage hqueue =>
    have htimer : s.timer = ⟨[], s.timer.arrivals⟩ := by rw [← hqueue]
    exact h.settle hstage (by rw [htimer, fire_nil]) s.clock none
  | wait now again a queue hstage hqueue hdue hclock =>
    have htimer : s.timer = ⟨a :: queue, s.timer.arrivals⟩ := by rw [← hqueue]
    exact h.settle hstage (by rw [htimer, fire_of_lt hdue]) again _
  | receive now patience deadline action mailbox hstage hmailbox =>
    obtain ⟨hrun, hongoing⟩ := h.concat hstage (.message deadline action)
    exact ⟨hongoing (by simp), hrun⟩
  | elapse now patience hstage =>
    obtain ⟨hrun, hongoing⟩ := h.concat hstage .elapsed
    exact ⟨hongoing (by simp), hrun⟩
  | stop now patience hstage hmailbox hshut =>
    obtain ⟨hrun, -⟩ := h.concat hstage .closed
    exact congrArg Prod.fst hrun
  | send | drop | hangUp | join => exact h

end Tracked

lemma over_rule (hstage : s.stage = .over) (hrule : Rule s move s') :
    s'.stage = .over ∧ s'.firings = s.firings := by
  cases hrule with
  | send | drop | hangUp | join => exact ⟨hstage, rfl⟩
  | stop => exact ⟨rfl, rfl⟩
  | read now hother | act now a queue hother | finish now hother | rest now again hother
  | wait now again a queue hother | receive now patience deadline action mailbox hother
  | elapse now patience hother => cases hstage.symm.trans hother

def Reaches (start s : Timekeeper α) : Prop :=
  ∃ moves, start.steps moves = some s

def Leads (s s' : Timekeeper α) : Prop :=
  ∃ move, s.step move = some s'

lemma Reaches.preserves {start : Timekeeper α} {P : Timekeeper α → Prop} (h : start.Reaches s)
    (hstart : P start) (hrule : ∀ {s move s'}, P s → Rule s move s' → P s') : P s := by
  obtain ⟨moves, h⟩ := h
  induction moves generalizing start with
  | nil =>
    cases h
    exact hstart
  | cons move moves ih =>
    rw [steps, List.foldlM_cons, Option.bind_eq_bind, Option.bind_eq_some_iff] at h
    obtain ⟨next, hnext, h⟩ := h
    exact ih (hrule hstart (rule_of_step hnext)) h

structure Sound (s : Timekeeper α) : Prop where
  booked : Booked s
  staged : Staged s
  tracked : Tracked s

namespace Sound

lemma rule (h : Sound s) (hrule : Rule s move s') : Sound s' :=
  ⟨h.booked.rule hrule, h.staged.rule h.booked hrule, h.tracked.rule hrule⟩

lemma of_reaches {clock : Int} (h : Reaches { clock } s) : Sound s :=
  h.preserves ⟨.initial clock, .initial clock, .initial clock⟩ rule

end Sound

def received (s : Timekeeper α) : List (Alarm α) :=
  numbered 0 (messages s.rounds)

/-- An action that was received and is yet to be run. -/
def Pending (s : Timekeeper α) (a : Alarm α) : Prop :=
  a ∈ received s ∧ a ∉ ran s

namespace Sound

lemma nodup (h : Sound s) : (ran s ++ (s.timer.queue ++
    (numbered s.timer.arrivals s.mailbox ++ s.discards))).Nodup :=
  h.booked.conserved.nodup_iff.mpr (numbered_nodup 0 s.calls)

lemma mem_received_iff (h : Sound s) {a : Alarm α} :
    a ∈ received s ↔ a ∈ numbered 0 s.calls ∧ a.arrival < s.timer.arrivals := by
  obtain ⟨rest, hrest⟩ := h.booked.sent
  rw [received, mem_numbered_append, h.booked.counted, Nat.zero_add, ← hrest, List.append_assoc]

lemma pending_iff (h : Sound s) (hstage : s.stage ≠ .over) {a : Alarm α} :
    Pending s a ↔ a ∈ s.timer.queue := by
  have hconserved := h.booked.conserved.mem_iff (a := a)
  rw [Pending, h.mem_received_iff, ← hconserved]
  constructor
  · rintro ⟨⟨hmem, hlt⟩, hran⟩
    simp only [List.mem_append] at hmem
    -- what is in the mailbox or was given up has a number that the timer has not come to
    rcases hmem with hmem | hmem | hmem | hmem
    · exact absurd hmem hran
    · exact hmem
    · exact absurd hlt (Nat.not_lt_of_le (arrival_of_mem_numbered hmem).1)
    · have hle := h.staged.unreceived hstage a hmem
      omega
  · intro ha
    refine ⟨⟨?_, h.booked.received a (List.mem_append_right _ ha)⟩, fun hran => ?_⟩
    · exact List.mem_append_right _ (List.mem_append_left _ ha)
    · exact List.disjoint_of_nodup_append h.nodup hran (List.mem_append_left _ ha)

lemma received_prefix (h : Sound s) : received s <+: numbered 0 s.calls := by
  obtain ⟨rest, hrest⟩ := h.booked.sent
  rw [received, ← hrest, List.append_assoc, numbered_append]
  exact List.prefix_append _ _

lemma ran_subset (h : Sound s) {a : Alarm α} (ha : a ∈ ran s) : a ∈ received s := by
  refine h.mem_received_iff.mpr ⟨h.booked.conserved.subset (List.mem_append_left _ ha), ?_⟩
  exact h.booked.received a (List.mem_append_left _ ha)

lemma firings_of_rule (h : Sound s) (hrule : Rule s move s') :
    s'.firings = s.firings ∨ ∃ a, s'.firings = s.firings ++ [⟨a, s.clock⟩] ∧
      a.deadline ≤ s.clock ∧ Pending s a ∧
        ∀ b, Pending s b → b ≠ a → a.precedes b = true := by
  cases hrule with
  | act now a queue hstage hqueue hdue =>
    have hlive : s.stage ≠ .over := by simp [hstage]
    have hsorted := h.booked.sorted
    rw [hqueue] at hsorted
    rw [h.staged.current now (Or.inl hstage)]
    refine Or.inr ⟨a, rfl, hdue, ?_, fun b hb hne => ?_⟩
    · rw [h.pending_iff hlive, hqueue]
      exact List.mem_cons_self
    · rw [h.pending_iff hlive, hqueue] at hb
      exact List.rel_of_pairwise_cons hsorted (List.mem_of_ne_of_mem hne hb)
  | send | drop | hangUp | join | read | finish | rest | wait | receive | elapse | stop =>
    exact Or.inl rfl

lemma lt_of_waiting (h : Sound s) {now : Int} {patience : Option Int}
    (hstage : s.stage = .waiting now patience) {a : Alarm α} (ha : Pending s a) :
    now < a.deadline := by
  rw [h.pending_iff (by simp [hstage])] at ha
  exact h.staged.quiet now patience hstage a ha

lemma perm_of_over (h : Sound s) (hstage : s.stage = .over) :
    (ran s ++ s.discards).Perm (numbered 0 s.calls) := by
  obtain ⟨-, hqueue, hmailbox⟩ := h.staged.ended hstage
  have hconserved := h.booked.conserved
  rwa [hqueue, hmailbox, List.nil_append, numbered, List.nil_append] at hconserved

lemma reaches_of_over (h : Sound s) (hstage : s.stage = .over) (hreach : s.Reaches s') :
    Sound s' ∧ s'.stage = .over ∧ s'.firings = s.firings := by
  refine hreach.preserves (P := fun t => Sound t ∧ t.stage = .over ∧ t.firings = s.firings)
    ⟨h, hstage, rfl⟩ ?_
  rintro t move t' ⟨hsound, hover, hfirings⟩ hrule
  obtain ⟨hover', hfirings'⟩ := over_rule hover hrule
  exact ⟨hsound.rule hrule, hover', hfirings'.trans hfirings⟩

lemma run_rounds (h : Sound s) (hstage : s.stage = .idle ∨ s.stage = .over) :
    (({} : Timer α).run s.rounds).1 = s.firings := by
  rcases hstage with hstage | hstage
  · obtain ⟨-, hplayed⟩ := h.tracked.of_stage hstage
    exact congrArg Prod.fst hplayed
  · exact h.tracked.of_stage hstage

end Sound

/-- A timer never runs an action twice, nor before its deadline. It runs what it has received in the
order of the deadlines and then of the arrivals, and does not wait while something is due. Once it
is shut down, each action was either run or given up, and nothing runs any more. Round by round, it
does what `Timer.run` does. -/
theorem timer_obeys_deadlines {clock : Int} (h : Reaches { clock } s) :
    (ran s).Nodup ∧
    received s <+: numbered 0 s.calls ∧
    (∀ f ∈ s.firings, f.alarm ∈ received s ∧ f.alarm.deadline ≤ f.now) ∧
    (∀ s', Leads s s' → s'.firings = s.firings ∨ ∃ a, s'.firings = s.firings ++ [⟨a, s.clock⟩] ∧
      a.deadline ≤ s.clock ∧ Pending s a ∧
        ∀ b, Pending s b → b ≠ a → a.precedes b = true) ∧
    (∀ now patience, s.stage = .waiting now patience → ∀ a, Pending s a → now < a.deadline) ∧
    (s.isShut = true → ∀ s', s.Reaches s' → s'.firings = s.firings ∧
      (ran s' ++ s'.discards).Perm (numbered 0 s'.calls) ∧ (ran s' ++ s'.discards).Nodup) ∧
    (s.stage = .idle ∨ s.stage = .over → (({} : Timer α).run s.rounds).1 = s.firings) := by
  have hsound := Sound.of_reaches h
  refine ⟨hsound.nodup.of_append_left, hsound.received_prefix, fun f hf => ⟨?_, ?_⟩, ?_, ?_, ?_,
    hsound.run_rounds⟩
  · exact hsound.ran_subset (List.mem_map_of_mem hf)
  · exact hsound.staged.due f hf
  · rintro s' ⟨move, hmove⟩
    exact hsound.firings_of_rule (rule_of_step hmove)
  · exact fun now patience hstage a ha => hsound.lt_of_waiting hstage ha
  · intro hshut s' hreach
    obtain ⟨hsound', hover, hfirings⟩ := hsound.reaches_of_over (hsound.staged.shut hshut) hreach
    have hperm := hsound'.perm_of_over hover
    exact ⟨hfirings, hperm, hperm.nodup_iff.mpr (numbered_nodup 0 _)⟩

def busyMoves : List (Move String) :=
  [.schedule 20 "late", .schedule 10 "early", .read 0, .wait 0, .receive, .read 1, .wait 2,
    .receive, .schedule 10 "twin", .schedule (-5) "past", .read 3, .wait 3, .receive, .read 4,
    .wait 4, .receive, .read 5, .act, .finish, .wait 6, .elapse, .read 10, .act, .finish, .act,
    .finish, .wait 11]

def lastMoves : List (Move String) :=
  [.hangUp, .stop, .join, .schedule 12 "lost"]

theorem timer_obeys_deadlines_of_busy :
    (∃ s : Timekeeper String, Reaches { clock := 0 } s ∧
      s.firings = [⟨⟨-5, 3, "past"⟩, 5⟩, ⟨⟨10, 1, "early"⟩, 10⟩, ⟨⟨10, 2, "twin"⟩, 10⟩] ∧
      Pending s ⟨20, 0, "late"⟩ ∧ ∀ a, Pending s a → 10 < a.deadline) ∧
    ∃ s : Timekeeper String, Reaches { clock := 0 } s ∧
      s.discards = [⟨20, 0, "late"⟩, ⟨12, 4, "lost"⟩] ∧
      (∀ s', s.Reaches s' → s'.firings = s.firings) ∧
      (({} : Timer String).run s.rounds).1 = s.firings := by
  constructor
  · have hrun : (steps { clock := 0 } busyMoves).map
        (fun s => (s.stage, s.firings, received s)) =
          some (.waiting 10 (some 9),
            [⟨⟨-5, 3, "past"⟩, 5⟩, ⟨⟨10, 1, "early"⟩, 10⟩, ⟨⟨10, 2, "twin"⟩, 10⟩],
            [⟨20, 0, "late"⟩, ⟨10, 1, "early"⟩, ⟨10, 2, "twin"⟩, ⟨-5, 3, "past"⟩]) := by
      decide +kernel
    obtain ⟨s, hs, he⟩ := Option.map_eq_some_iff.mp hrun
    obtain ⟨hstage, hfirings, hreceived⟩ : _ ∧ _ ∧ _ := by simpa only [Prod.mk.injEq] using he
    obtain ⟨-, -, -, -, hquiet, -⟩ := timer_obeys_deadlines ⟨busyMoves, hs⟩
    refine ⟨s, ⟨busyMoves, hs⟩, hfirings, ⟨?_, ?_⟩, hquiet 10 (some 9) hstage⟩
    · simp [hreceived]
    · simp [ran, hfirings]
  · have hrun : (steps { clock := 0 } (busyMoves ++ lastMoves)).map
        (fun s => (s.stage, s.isShut, s.discards)) =
          some (.over, true, [⟨20, 0, "late"⟩, ⟨12, 4, "lost"⟩]) := by
      decide +kernel
    obtain ⟨s, hs, he⟩ := Option.map_eq_some_iff.mp hrun
    obtain ⟨hstage, hisShut, hdiscards⟩ : _ ∧ _ ∧ _ := by simpa only [Prod.mk.injEq] using he
    obtain ⟨-, -, -, -, -, hshut, hrounds⟩ := timer_obeys_deadlines ⟨busyMoves ++ lastMoves, hs⟩
    exact ⟨s, ⟨_, hs⟩, hdiscards, fun s' hreach => (hshut hisShut s' hreach).1,
      hrounds (Or.inr hstage)⟩

end ClassBatch.Batch.Timekeeper
