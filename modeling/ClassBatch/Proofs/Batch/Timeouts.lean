import ClassBatch.Batch.Timed
import ClassBatch.Proofs.Batch.Cancelling
import ClassBatch.Proofs.Batch.Timekeeping

/-! The timeouts of a batch. Its deadlines never decrease, so that the timer runs them as they come,
however late it is. -/

namespace ClassBatch.Batch

namespace Timekeeper

open Alarm Timer

variable {α : Type} {s s' : Timekeeper α} {move : Move α}

structure InOrder (s : Timekeeper α) : Prop where
  queued : s.stage ≠ .over → ran s ++ s.timer.queue = received s
  begun : ran s <+: received s

lemma Rule.calls_prefix (hrule : Rule s move s') : s.calls <+: s'.calls := by
  cases hrule with
  | send | drop => exact List.prefix_append _ _
  | _ => exact List.prefix_refl _

lemma insert_received (h : InOrder s) (hbooked : Booked s) (hstage : s.stage ≠ .over)
    (hcalls : (s.calls.map Prod.fst).Pairwise (· ≤ ·)) {deadline : Int} {action : α}
    {mailbox : List (Int × α)} (hmailbox : s.mailbox = (deadline, action) :: mailbox) :
    insert ⟨deadline, s.timer.arrivals, action⟩ s.timer.queue =
      s.timer.queue ++ [⟨deadline, s.timer.arrivals, action⟩] := by
  have hsent : messages s.rounds ++ [(deadline, action)] <+: s.calls := by
    refine List.IsPrefix.trans ?_ hbooked.sent
    rw [hmailbox]
    exact ⟨mailbox, by simp⟩
  have hsorted := sorted_numbered 0 (List.Pairwise.sublist (hsent.sublist.map Prod.fst) hcalls)
  rw [numbered_append, hbooked.counted, Nat.zero_add] at hsorted
  apply insert_eq_append
  intro b hb
  have hmem : b ∈ received s := by
    rw [← h.queued hstage]
    exact List.mem_append_right _ hb
  exact (List.pairwise_append.mp hsorted).2.2 b hmem _ List.mem_cons_self

lemma received_concat (s : Timekeeper α) (round : Round α) (h : round.arrival.message? = none) :
    numbered 0 (messages (s.rounds ++ [round])) = received s := by
  rw [messages_concat, h, Option.toList_none, List.append_nil, received]

lemma InOrder.rule (h : InOrder s) (hbooked : Booked s)
    (hcalls : (s.calls.map Prod.fst).Pairwise (· ≤ ·)) (hrule : Rule s move s') : InOrder s' := by
  cases hrule with
  | act now a queue hstage hqueue hdue =>
    have hall := h.queued (by simp [hstage])
    rw [hqueue] at hall
    have hran : (ran s ++ [a]) ++ queue = received s := by rw [← hall, List.append_assoc]; rfl
    have hnew : ran { s with
        stage := .acting now
        timer := { s.timer with queue }
        firings := s.firings ++ [⟨a, now⟩] } = ran s ++ [a] := List.map_append
    refine ⟨fun _ => ?_, ?_⟩
    · rw [hnew]
      exact hran
    · rw [hnew]
      exact ⟨queue, hran⟩
  | receive now patience deadline action mailbox hstage hmailbox =>
    have hlive : s.stage ≠ .over := by simp [hstage]
    have hinsert := insert_received h hbooked hlive hcalls hmailbox
    have hreceived : numbered 0 (messages (s.rounds ++ [⟨now, .message deadline action⟩])) =
        received s ++ [⟨deadline, s.timer.arrivals, action⟩] := by
      rw [messages_concat, numbered_append, hbooked.counted, Nat.zero_add]
      rfl
    refine ⟨fun _ => ?_, ?_⟩
    · change ran s ++ insert _ s.timer.queue = _
      rw [hinsert, ← List.append_assoc, h.queued hlive]
      exact hreceived.symm
    · change ran s <+: numbered 0 (messages (s.rounds ++ [_]))
      rw [hreceived]
      exact h.begun.trans (List.prefix_append _ _)
  | elapse now patience hstage =>
    have hsame := received_concat s ⟨now, .elapsed⟩ rfl
    refine ⟨fun _ => ?_, ?_⟩
    · change ran s ++ s.timer.queue = numbered 0 (messages (s.rounds ++ [_]))
      rw [hsame]
      exact h.queued (by simp [hstage])
    · change ran s <+: numbered 0 (messages (s.rounds ++ [_]))
      rw [hsame]
      exact h.begun
  | stop now patience hstage hmailbox hshut =>
    refine ⟨fun hover => absurd rfl hover, ?_⟩
    change ran s <+: numbered 0 (messages (s.rounds ++ [_]))
    rw [received_concat s ⟨now, .closed⟩ rfl]
    exact h.begun
  | read now hstage hclock => exact ⟨fun _ => h.queued (by simp [hstage]), h.begun⟩
  | finish now hstage => exact ⟨fun _ => h.queued (by simp [hstage]), h.begun⟩
  | rest now again hstage hqueue => exact ⟨fun _ => h.queued (by simp [hstage]), h.begun⟩
  | wait now again a queue hstage => exact ⟨fun _ => h.queued (by simp [hstage]), h.begun⟩
  | send | drop | hangUp | join => exact ⟨h.queued, h.begun⟩

lemma inOrder_of_reaches {clock : Int} (h : Reaches { clock } s)
    (hcalls : (s.calls.map Prod.fst).Pairwise (· ≤ ·)) : InOrder s := by
  have hall : Sound s ∧ ((s.calls.map Prod.fst).Pairwise (· ≤ ·) → InOrder s) := by
    refine h.preserves (P := fun s =>
      Sound s ∧ ((s.calls.map Prod.fst).Pairwise (· ≤ ·) → InOrder s)) ?_ ?_
    · refine ⟨⟨.initial clock, .initial clock, .initial clock⟩, fun _ => ⟨fun _ => rfl, ?_⟩⟩
      exact List.prefix_refl _
    · rintro s move s' ⟨hsound, horder⟩ hrule
      refine ⟨hsound.rule hrule, fun hcalls => ?_⟩
      have hbefore := hcalls.sublist (hrule.calls_prefix.sublist.map Prod.fst)
      exact (horder hbefore).rule hsound.booked hbefore hrule
  exact hall.2 hcalls

lemma now_le_clock {clock : Int} (h : Reaches { clock } s) : ∀ f ∈ s.firings, f.now ≤ s.clock := by
  have hall : Sound s ∧ ∀ f ∈ s.firings, f.now ≤ s.clock := by
    refine h.preserves (P := fun s => Sound s ∧ ∀ f ∈ s.firings, f.now ≤ s.clock) ?_ ?_
    · exact ⟨⟨.initial clock, .initial clock, .initial clock⟩, List.forall_mem_nil _⟩
    · rintro s move s' ⟨hsound, hnow⟩ hrule
      refine ⟨hsound.rule hrule, ?_⟩
      cases hrule with
      | read now _ hclock | wait _ now _ _ _ _ _ hclock =>
        exact fun f hf => (hnow f hf).trans hclock
      | act now a queue hstage _ _ =>
        have hcurrent := hsound.staged.current now (Or.inl hstage)
        rw [List.forall_mem_append, List.forall_mem_singleton]
        exact ⟨hnow, hcurrent.ge⟩
      | _ => exact hnow
  exact hall.2

lemma Reaches.concat {start : Timekeeper α} (h : start.Reaches s) (hstep : s.step move = some s') :
    start.Reaches s' := by
  obtain ⟨moves, h⟩ := h
  refine ⟨moves ++ [move], ?_⟩
  rw [steps, List.foldlM_append, ← steps, h]
  simpa using hstep

end Timekeeper

def Action.timeout? : Action → Option String
  | .fire name => some name
  | _ => none

def timeouts (actions : List Action) : List String :=
  actions.filterMap Action.timeout?

lemma timeouts_concat (actions : List Action) (action : Action) :
    timeouts (actions ++ [action]) = timeouts actions ++ action.timeout?.toList := by
  rw [timeouts, List.filterMap_append, List.filterMap_cons, timeouts]
  cases action.timeout? <;> rfl

lemma prefix_concat {α : Type} {l l' : List α} {a : α} (h : l <+: l')
    (ha : l'[l.length]? = some a) : l ++ [a] <+: l' := by
  obtain ⟨rest, rfl⟩ := h
  rw [List.getElem?_append_right (le_refl _), Nat.sub_self] at ha
  cases rest with
  | nil => cases ha
  | cons b rest =>
    cases ha
    exact ⟨rest, by simp⟩

lemma System.config_step {s s' : System} {action : Action} (h : s.step action = some s') :
    s'.config = s.config := by
  rcases System.rule_of_step h with ⟨t, _, t', s₁, hr, rfl⟩ | hr
  · exact hr.settings.1
  · exact hr.settings.1

namespace Timed

open Timekeeper

variable {s s' : Timed} {event : Event} {events : List Event} {action : Action}
  {timer : Timekeeper String}

def Event.action? : Event → Option Action
  | .batch action => some action
  | _ => none

def actions (events : List Event) : List Action :=
  events.filterMap Event.action?

lemma actions_concat (events : List Event) (event : Event) :
    actions (events ++ [event]) = actions events ++ event.action?.toList := by
  rw [actions, List.filterMap_append, List.filterMap_cons, actions]
  cases event.action? <;> rfl

def call (config : Config) (submission : String × Nat) : Int × String :=
  ((submission.2 + config.timeout.toNanos : Nat), submission.1)

inductive Joined (s : Timed) : Action → Timekeeper String → Prop
  | schedule (name : String) (submitted : Nat) (timer : Timekeeper String) :
      s.submissions[s.timer.calls.length]? = some (name, submitted) →
      s.timer.step (.schedule (call s.batch.config (name, submitted)).1 name) = some timer →
      Joined s (.schedule name) timer
  | fire (a : Alarm String) (queue : List (Alarm String)) (timer : Timekeeper String) :
      s.timer.timer.queue = a :: queue → s.timer.step .act = some timer →
      Joined s (.fire a.action) timer
  | close (timer : Timekeeper String) : s.timer.step .join = some timer → Joined s .close timer
  | aside (action : Action) : action.timeout? = none → Joined s action s.timer

lemma joined_of_eq (h : s.joined action = some timer) : Joined s action timer := by
  cases action with
  | submit name =>
    simp only [joined, Option.ite_none_right_eq_some, Option.some.injEq] at h
    exact h.2 ▸ .aside _ rfl
  | schedule name =>
    obtain ⟨⟨next, submitted⟩, hnext, h⟩ := Option.bind_eq_some_iff.mp h
    obtain ⟨deadline, hdeadline, h⟩ := Option.bind_eq_some_iff.mp h
    obtain ⟨rfl, h⟩ := Option.ite_none_right_eq_some.mp h
    rw [after?] at hdeadline
    obtain ⟨_, hdeadline⟩ := Option.ite_none_right_eq_some.mp hdeadline
    cases hdeadline
    exact .schedule _ _ _ hnext h
  | fire name =>
    simp only [joined] at h
    split at h
    · obtain ⟨rfl, hact⟩ := Option.ite_none_right_eq_some.mp h
      exact .fire _ _ _ ‹_› hact
    · cases h
  | close => exact .close _ h
  | _ =>
    cases h
    exact .aside _ rfl

inductive Rule (s : Timed) : Event → Timed → Prop
  | make (t : Task) (now : Nat) : s.batch.tasks[s.submissions.length]? = some t → s.clock ≤ now →
      Rule s (.make now)
        { s with clock := now, submissions := s.submissions ++ [(t.name, now)] }
  | batch (action : Action) (timer : Timekeeper String) (batch : System) :
      Joined s action timer → s.batch.step action = some batch →
      Rule s (.batch action) { s with batch, timer }
  | timer (move : Move String) (clock : Nat) (timer : Timekeeper String) :
      s.clockAfter move = some clock → s.timer.step move = some timer →
      Rule s (.timer move) { s with timer, clock }

lemma rule_of_step (h : s.step event = some s') : Rule s event s' := by
  cases event with
  | make now =>
    obtain ⟨t, ht, h⟩ := Option.bind_eq_some_iff.mp h
    obtain ⟨hclock, h⟩ := Option.ite_none_right_eq_some.mp h
    cases h
    exact .make t now ht hclock
  | batch action =>
    obtain ⟨timer, htimer, h⟩ := Option.bind_eq_some_iff.mp h
    obtain ⟨batch, hbatch, h⟩ := Option.bind_eq_some_iff.mp h
    cases h
    exact .batch action timer batch (joined_of_eq htimer) hbatch
  | timer move =>
    obtain ⟨clock, hclock, h⟩ := Option.bind_eq_some_iff.mp h
    obtain ⟨timer, htimer, h⟩ := Option.bind_eq_some_iff.mp h
    cases h
    exact .timer move clock timer hclock htimer

lemma timer_alone {move : Move String} {clock : Nat} (hclock : s.clockAfter move = some clock)
    (htimer : s.timer.step move = some timer) (hbound : s.timer.clock ≤ s.clock) :
    s.clock ≤ clock ∧ timer.clock ≤ clock ∧ timer.calls = s.timer.calls ∧
      timer.firings = s.timer.firings := by
  have hrule := Timekeeper.rule_of_step htimer
  -- Only a reading of the clock moves it.
  have still (h : clock = s.clock) : s.clock ≤ clock ∧ s.timer.clock ≤ clock :=
    ⟨h.ge, h ▸ hbound⟩
  cases hrule with
  | send | drop | join | act => cases hclock
  | read now _ _ =>
    obtain ⟨hnow, h⟩ := Option.ite_none_right_eq_some.mp hclock
    cases h
    exact ⟨by omega, Int.self_le_toNat now, rfl, rfl⟩
  | rest now again _ _ =>
    obtain ⟨hnow, h⟩ := Option.ite_none_right_eq_some.mp hclock
    cases h
    have hagain := Int.self_le_toNat again
    exact ⟨by omega, by dsimp only; omega, rfl, rfl⟩
  | wait now again _ _ _ _ _ _ =>
    obtain ⟨hnow, h⟩ := Option.ite_none_right_eq_some.mp hclock
    cases h
    exact ⟨by omega, Int.self_le_toNat again, rfl, rfl⟩
  | hangUp =>
    obtain ⟨_, h⟩ := Option.ite_none_right_eq_some.mp hclock
    obtain ⟨h₁, h₂⟩ := still (Option.some.inj h).symm
    exact ⟨h₁, h₂, rfl, rfl⟩
  | finish _ _ =>
    obtain ⟨_, h⟩ := Option.ite_none_left_eq_some.mp hclock
    obtain ⟨h₁, h₂⟩ := still (Option.some.inj h).symm
    exact ⟨h₁, h₂, rfl, rfl⟩
  | receive _ _ _ _ _ _ _ | elapse _ _ _ | stop _ _ _ _ _ =>
    obtain ⟨h₁, h₂⟩ := still (Option.some.inj hclock).symm
    exact ⟨h₁, h₂, rfl, rfl⟩

lemma Joined.effect (h : Joined s action timer) :
    (timer = s.timer ∨ ∃ move, s.timer.step move = some timer) ∧ timer.clock = s.timer.clock ∧
      timer.firings.map (fun f => f.alarm.action) =
        s.timer.firings.map (fun f => f.alarm.action) ++ action.timeout?.toList ∧
      (s.timer.calls <+: s.submissions.map (call s.batch.config) →
        timer.calls <+: s.submissions.map (call s.batch.config)) := by
  cases h with
  | schedule name submitted timer hnext htimer =>
    have hcall : (s.submissions.map (call s.batch.config))[s.timer.calls.length]? =
        some (call s.batch.config (name, submitted)) := by
      rw [List.getElem?_map, hnext]
      rfl
    refine ⟨Or.inr ⟨_, htimer⟩, ?_⟩
    cases Timekeeper.rule_of_step htimer with
    | send | drop =>
      exact ⟨rfl, (List.append_nil _).symm, fun hcalls => prefix_concat hcalls hcall⟩
  | fire a queue timer hqueue htimer =>
    refine ⟨Or.inr ⟨_, htimer⟩, ?_⟩
    cases Timekeeper.rule_of_step htimer with
    | act now b rest hstage hrest hdue =>
      cases hqueue.symm.trans hrest
      exact ⟨rfl, List.map_append, id⟩
  | close timer htimer =>
    refine ⟨Or.inr ⟨_, htimer⟩, ?_⟩
    cases Timekeeper.rule_of_step htimer with
    | join => exact ⟨rfl, (List.append_nil _).symm, id⟩
  | aside action hnone =>
    rw [hnone]
    exact ⟨Or.inl rfl, rfl, (List.append_nil _).symm, id⟩

structure Timely (s : Timed) (config : Config) (fresh : Bool) (names : List String) (start : Nat)
    (actions : List Action) : Prop where
  batch : System.Run (System.initial config fresh names) actions s.batch
  reaches : Reaches { clock := start } s.timer
  config_eq : s.batch.config = config
  made : s.submissions.map Prod.fst <+: Names.sorted names
  rising : (s.submissions.map Prod.snd).Pairwise (· ≤ ·)
  past : ∀ submitted ∈ s.submissions.map Prod.snd, submitted ≤ s.clock
  calls : s.timer.calls <+: s.submissions.map (call s.batch.config)
  clock : s.timer.clock ≤ s.clock
  timeouts : s.timer.firings.map (fun f => f.alarm.action) = timeouts actions

namespace Timely

variable {config : Config} {fresh : Bool} {names : List String} {start : Nat}
  {actions : List Action}

lemma make (h : s.Timely config fresh names start actions) {t : Task} {now : Nat}
    (ht : s.batch.tasks[s.submissions.length]? = some t) (hclock : s.clock ≤ now) :
    Timely { s with clock := now, submissions := s.submissions ++ [(t.name, now)] }
      config fresh names start actions := by
  refine ⟨h.batch, h.reaches, h.config_eq, ?_, ?_, ?_, ?_, ?_, h.timeouts⟩
  · rw [List.map_append]
    refine prefix_concat h.made ?_
    rw [← h.batch.sound.names, List.length_map, List.getElem?_map, ht]
    rfl
  · rw [List.map_append, List.pairwise_append]
    refine ⟨h.rising, List.pairwise_singleton _ _, fun submitted hs other ho => ?_⟩
    rw [List.mem_singleton.mp ho]
    exact (h.past submitted hs).trans hclock
  · rw [List.map_append, List.forall_mem_append]
    exact ⟨fun submitted hs => (h.past submitted hs).trans hclock, by simp⟩
  · rw [List.map_append]
    exact h.calls.trans (List.prefix_append _ _)
  · exact h.clock.trans (Int.ofNat_le.mpr hclock)

lemma joined (h : s.Timely config fresh names start actions) {batch : System}
    (hjoined : Joined s action timer) (hbatch : s.batch.step action = some batch) :
    Timely { s with batch, timer } config fresh names start (actions ++ [action]) := by
  obtain ⟨htimer, hclock, htimeouts, hcalls⟩ := hjoined.effect
  have hconfig := System.config_step hbatch
  refine ⟨h.batch.concat hbatch, ?_, hconfig.trans h.config_eq, h.made, h.rising, h.past, ?_, ?_,
    ?_⟩
  · rcases htimer with rfl | ⟨move, hmove⟩
    · exact h.reaches
    · exact h.reaches.concat hmove
  · change timer.calls <+: s.submissions.map (call batch.config)
    rw [hconfig]
    exact hcalls h.calls
  · exact hclock.le.trans h.clock
  · rw [timeouts_concat, ← h.timeouts]
    exact htimeouts

lemma rule (h : s.Timely config fresh names start actions) (hrule : Rule s event s') :
    s'.Timely config fresh names start (actions ++ event.action?.toList) := by
  cases hrule with
  | make t now ht hclock => exact (List.append_nil actions).symm ▸ h.make ht hclock
  | batch action timer batch hjoined hbatch => exact h.joined hjoined hbatch
  | timer move clock timer hclock htimer =>
    obtain ⟨hle, hbound, hcalls, hfirings⟩ := timer_alone hclock htimer h.clock
    have htimely : Timely { s with timer, clock } config fresh names start actions :=
      ⟨h.batch, h.reaches.concat htimer, h.config_eq, h.made, h.rising,
        fun submitted hs => (h.past submitted hs).trans hle, hcalls ▸ h.calls, hbound,
        hfirings ▸ h.timeouts⟩
    exact (List.append_nil actions).symm ▸ htimely

lemma initial (config : Config) (fresh : Bool) (names : List String) (start : Nat) :
    (Timed.initial config fresh names start).Timely config fresh names start [] :=
  ⟨.nil, ⟨[], rfl⟩, rfl, List.nil_prefix, List.Pairwise.nil, List.forall_mem_nil _,
    List.nil_prefix, le_refl _, rfl⟩

lemma of_steps (h : (Timed.initial config fresh names start).steps events = some s) :
    s.Timely config fresh names start (Timed.actions events) := by
  induction events using List.reverseRecOn generalizing s with
  | nil =>
    cases h
    exact initial config fresh names start
  | append_singleton events event ih =>
    rw [steps, List.foldlM_append] at h
    obtain ⟨before, hbefore, h⟩ := Option.bind_eq_some_iff.mp h
    rw [actions_concat]
    exact (ih hbefore).rule (rule_of_step (by simpa using h))

lemma deadlines_rising (h : s.Timely config fresh names start actions) :
    (s.timer.calls.map Prod.fst).Pairwise (· ≤ ·) := by
  refine List.Pairwise.sublist (h.calls.sublist.map Prod.fst) ?_
  rw [List.map_map, List.pairwise_map]
  refine (List.pairwise_map.mp h.rising).imp fun {a b} hab => ?_
  simp only [Function.comp_apply, call]
  omega

lemma timeouts_prefix (h : s.Timely config fresh names start actions) :
    Batch.timeouts actions <+: Names.sorted names := by
  have hsound := Sound.of_reaches h.reaches
  have horder := inOrder_of_reaches h.reaches h.deadlines_rising
  have hran := (horder.begun.trans hsound.received_prefix).map Alarm.action
  rw [ran, List.map_map, Alarm.map_action_numbered] at hran
  have hcalls := h.calls.map Prod.snd
  rw [List.map_map] at hcalls
  rw [← h.timeouts]
  exact hran.trans (hcalls.trans h.made)

lemma due (h : s.Timely config fresh names start actions) {f : Firing String}
    (hf : f ∈ s.timer.firings) : ∃ submitted, (f.alarm.action, submitted) ∈ s.submissions ∧
      submitted + config.timeout.toNanos ≤ f.now := by
  have hsound := Sound.of_reaches h.reaches
  have hcall := Alarm.mem_of_mem_numbered
    (hsound.received_prefix.subset (hsound.ran_subset (List.mem_map_of_mem hf)))
  obtain ⟨⟨name, submitted⟩, hm, hsubmission⟩ := List.mem_map.mp (h.calls.subset hcall)
  obtain ⟨hdeadline, rfl⟩ := Prod.mk.inj hsubmission
  refine ⟨submitted, hm, ?_⟩
  have hdue := hsound.staged.due f hf
  rw [h.config_eq] at hdeadline
  omega

end Timely

/-- The timeouts of a batch run in the order of the names of their classes, each at most once and
not before the timeout has passed since its task was made, however late the timer is. -/
theorem timeouts_in_name_order (config : Config) (fresh : Bool) (names : List String)
    (start : Nat) (events : List Event) (s : Timed)
    (h : (initial config fresh names start).steps events = some s) :
    (System.initial config fresh names).steps (actions events) = some s.batch ∧
    s.timer.firings.map (fun f => f.alarm.action) = timeouts (actions events) ∧
    (timeouts (actions events)).Pairwise (· < ·) ∧
    timeouts (actions events) <+: Names.sorted names ∧
    s.submissions.map Prod.fst <+: Names.sorted names ∧
    ∀ f ∈ s.timer.firings, ∃ submitted, (f.alarm.action, submitted) ∈ s.submissions ∧
      submitted + config.timeout.toNanos ≤ f.now ∧ f.now ≤ s.clock := by
  have htimely := Timely.of_steps h
  have hprefix := htimely.timeouts_prefix
  refine ⟨htimely.batch.steps, htimely.timeouts,
    (Names.sorted_ordered names).sublist hprefix.sublist, hprefix, htimely.made, fun f hf => ?_⟩
  obtain ⟨submitted, hm, hdue⟩ := htimely.due hf
  exact ⟨submitted, hm, hdue, (now_le_clock htimely.reaches f hf).trans htimely.clock⟩

def overdue : List Event :=
  [.make 10, .make 12, .batch (.submit "a/A"), .batch (.schedule "a/A"), .batch (.submit "b/B"),
    .batch (.schedule "b/B"), .batch .launch, .timer (.read 20), .timer (.wait 20),
    .timer .receive, .timer (.read 30), .timer (.wait 31), .timer .receive,
    .timer (.read 2000000000)] ++
    (System.timeOut "a/A").map .batch ++ [.timer .finish] ++ (System.timeOut "b/B").map .batch

theorem timeouts_in_name_order_when_overdue :
    ∃ s, (initial ⟨1, Duration.ofSeconds 1⟩ false ["b/B", "a/A"] 0).steps overdue = some s ∧
      s.timer.firings.map (fun f => (f.alarm.action, f.alarm.deadline, f.now)) =
        [("a/A", 1000000010, 2000000000), ("b/B", 1000000012, 2000000000)] ∧
      (timeouts (actions overdue)).Pairwise (· < ·) ∧
      ∀ f ∈ s.timer.firings, ∃ submitted, (f.alarm.action, submitted) ∈ s.submissions ∧
        submitted + (Duration.ofSeconds 1).toNanos ≤ f.now ∧ f.now ≤ s.clock := by
  have hfinal : ((initial ⟨1, Duration.ofSeconds 1⟩ false ["b/B", "a/A"] 0).steps overdue).any
      (fun s => s.timer.firings.map (fun f => (f.alarm.action, f.alarm.deadline, f.now)) =
        [("a/A", 1000000010, 2000000000), ("b/B", 1000000012, 2000000000)]) = true := by
    decide +kernel
  obtain ⟨s, hs, hfirings⟩ := (Option.any_eq_true _ _).mp hfinal
  obtain ⟨_, _, hordered, _, _, hdue⟩ := timeouts_in_name_order _ _ _ _ _ s hs
  exact ⟨s, hs, of_decide_eq_true hfirings, hordered, hdue⟩

end Timed

end ClassBatch.Batch
