import ClassBatch.Proofs.Batch.Alarms

/-! A rehearsal is a run of the timer, in which as many actions run as were waited for. -/

namespace ClassBatch.Batch.Timer

variable {α : Type} {rounds : List (Round α)}

lemma fire_queue (t : Timer α) (now : Int) :
    (t.fire now).2.queue = t.queue.drop (t.fire now).1.length := by
  have hsplit : t.due now ++ (t.fire now).2.queue = t.queue := List.takeWhile_append_dropWhile
  have hlength : (t.fire now).1.length = (t.due now).length := List.length_map _
  rw [hlength]
  conv_rhs => rw [← hsplit]
  exact List.drop_left.symm

lemma fire_length (t : Timer α) (now : Int) :
    (t.fire now).1.length + (t.fire now).2.queue.length = t.queue.length := by
  have hsplit : t.due now ++ (t.fire now).2.queue = t.queue := List.takeWhile_append_dropWhile
  rw [← congrArg List.length hsplit, List.length_append, fire, List.length_map]

lemma run_length (h : Ongoing rounds) (t : Timer α) :
    (t.run rounds).1.length + (t.run rounds).2.queue.length =
      t.queue.length + (messages rounds).length := by
  induction rounds generalizing t with
  | nil => simp [run, messages]
  | cons round rounds ih =>
    rw [Ongoing, List.forall_mem_cons] at h
    have hfire := fire_length t round.now
    rw [run, messages_cons]
    cases hround : round.arrival with
    | closed => exact absurd hround h.1
    | elapsed =>
      have hlater := ih h.2 (t.fire round.now).2
      simp only [Arrival.message?, Option.toList_none, List.nil_append, List.length_append]
      omega
    | message deadline action =>
      have hlater := ih h.2 ((t.fire round.now).2.receive deadline action)
      have hreceive : ((t.fire round.now).2.receive deadline action).queue.length =
          (t.fire round.now).2.queue.length + 1 := (insert_perm _ _).length_eq
      simp only [Arrival.message?, Option.toList_some, List.singleton_append, List.length_append,
        List.length_cons]
      omega

lemma run_waits_length {queue : List (Alarm α)} {t : Timer α} (early wanted : Nat)
    (ht : t.queue = queue.drop early) :
    min wanted queue.length ≤ early + (t.run (waits wanted queue)).1.length := by
  induction queue generalizing t early wanted with
  | nil => simp
  | cons a queue ih =>
    cases wanted with
    | zero => simp
    | succ wanted =>
      have hfired : 1 ≤ early + (t.fire a.deadline).1.length := by
        cases early with
        | zero =>
          obtain ⟨_, n⟩ := t
          obtain rfl := ht
          rw [List.drop_zero, fire_of_le (Int.le_refl _), List.length_cons]
          omega
        | succ early => omega
      have hqueue : (t.fire a.deadline).2.queue =
          queue.drop (early + (t.fire a.deadline).1.length - 1) := by
        obtain ⟨k, hk⟩ := Nat.exists_eq_add_of_le' hfired
        rw [fire_queue, ht, List.drop_drop, hk, List.drop_succ_cons, Nat.add_sub_cancel]
      have hlater := ih _ wanted hqueue
      rw [waits, run]
      simp only [List.length_append, List.length_cons]
      omega

lemma ongoing_waits (wanted : Nat) (queue : List (Alarm α)) :
    Ongoing (waits wanted queue) ∧ messages (waits wanted queue) = [] := by
  induction queue generalizing wanted with
  | nil => cases wanted <;> exact ⟨nofun, rfl⟩
  | cons a queue ih =>
    cases wanted with
    | zero => exact ⟨nofun, rfl⟩
    | succ wanted =>
      obtain ⟨hongoing, hmessages⟩ := ih wanted
      refine ⟨List.forall_mem_cons.mpr ⟨nofun, hongoing⟩, ?_⟩
      rw [waits, messages_cons, hmessages]
      rfl

lemma ongoing_calls (actions : List (Int × α)) :
    Ongoing (actions.map fun (deadline, action) => Round.mk 0 (.message deadline action)) ∧
      messages (actions.map fun (deadline, action) => Round.mk 0 (.message deadline action)) =
        actions := by
  induction actions with
  | nil => exact ⟨nofun, rfl⟩
  | cons call actions ih =>
    refine ⟨List.forall_mem_cons.mpr ⟨nofun, ih.1⟩, ?_⟩
    rw [List.map_cons, messages_cons, ih.2]
    rfl

/-- A rehearsal is a run of the timer until it is closed. All actions arrive, and as many run as are
wanted, if there are so many. -/
theorem rehearse_eq_run (actions : List (Int × α)) (wanted : Nat) : ∃ rounds last,
    messages rounds = actions ∧
    rehearse actions wanted =
      ((({} : Timer α).run (rounds ++ [⟨last, .closed⟩])).1.map fun f => f.alarm.action) ∧
    min wanted actions.length ≤ (rehearse actions wanted).length := by
  let start : List (Round α) :=
    (actions.map fun (deadline, action) => Round.mk 0 (.message deadline action)) ++ [⟨0, .elapsed⟩]
  let first := ({} : Timer α).run start
  let waiting := waits (wanted - first.1.length) first.2.queue
  let second := first.2.run waiting
  let last := second.1.getLast?.elim 0 Firing.now
  obtain ⟨hcalls, hactions⟩ := ongoing_calls actions
  have hstart : Ongoing start :=
    List.forall_mem_append.mpr ⟨hcalls, List.forall_mem_singleton.mpr nofun⟩
  have hmessages : messages start = actions := by
    rw [messages_concat, hactions]
    exact List.append_nil actions
  have hwaiting : Ongoing waiting ∧ messages waiting = [] := ongoing_waits _ _
  have hrehearse : rehearse actions wanted =
      (first.1 ++ second.1 ++ (second.2.run [⟨last, .closed⟩]).1).map fun f => f.alarm.action := rfl
  refine ⟨start ++ waiting, last, ?_, ?_, ?_⟩
  · rw [messages, List.filterMap_append, ← messages, ← messages, hmessages, hwaiting.2,
      List.append_nil]
  · rw [List.append_assoc, run_append hstart, run_append hwaiting.1, hrehearse, List.append_assoc]
  · have hlength := run_length hstart ({} : Timer α)
    have hwaited := run_waits_length (t := first.2) 0 (wanted - first.1.length) rfl
    rw [hmessages] at hlength
    change first.1.length + first.2.queue.length = 0 + actions.length at hlength
    change _ ≤ 0 + second.1.length at hwaited
    rw [hrehearse]
    simp only [List.length_map, List.length_append]
    omega

end ClassBatch.Batch.Timer
