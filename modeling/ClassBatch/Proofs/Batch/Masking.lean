import ClassBatch.Proofs.Batch.Runs

/-! What a batch does not depend on. Requests to abort and panics of progress callbacks leave marks
in its state, and a step that does not read a mark does the same whatever is made of it. -/

namespace ClassBatch.Batch

structure Mask where
  requested : Bool → Bool
  signals : Nat → Nat
  panics : Nat → Nat
  panicked : Bool → Bool
  panics_add : ∀ n b, panics (n + b.toNat) = panics n + (panicked b).toNat

def Action.readsAbort : Action → Bool
  | .testAbort | .requestAbort | .signalAbort => true
  | _ => false

def Action.mask (m : Mask) : Action → Action
  | .advance side name panics => .advance side name (m.panicked panics)
  | action => action

def Mask.calm : Mask where
  requested := id
  signals := id
  panics := fun _ => 0
  panicked := fun _ => false
  panics_add := fun _ _ => rfl

namespace System

def mask (m : Mask) (s : System) : System :=
  { s with
    abortRequested := m.requested s.abortRequested
    abortSignals := m.signals s.abortSignals
    panics := m.panics s.panics }

variable {m : Mask} {s : System} {action : Action}

lemma tell_mask (m : Mask) (s : System) : (s.mask m).tell = s.tell.mask m := by
  cases hw : s.watch <;> simp only [tell, mask, hw]

lemma phaseLocked_mask (m : Mask) (s : System) : (s.mask m).phaseLocked = s.phaseLocked :=
  rfl

lemma cancelUnsettled_mask (m : Mask) (s : System) (name : String) :
    (s.mask m).cancelUnsettled name = (s.cancelUnsettled name).mask m := by
  have hsettlement : (s.mask m).settlement = s.settlement := rfl
  have htask : (s.mask m).task? name = s.task? name := rfl
  rw [cancelUnsettled, cancelUnsettled, hsettlement, htask]
  cases s.settlement.isSettled name with
  | true => rfl
  | false => cases s.task? name <;> rfl

lemma advance_mask (m : Mask) (s : System) (name : String) (panics : Bool) (attempt : Attempt) :
    (s.mask m).advance name (m.panicked panics) attempt =
      (s.advance name panics attempt).map fun (attempt', s') => (attempt', s'.mask m) := by
  cases attempt with
  | ready outcome duration =>
    cases hd : s.delivering <;> simp [advance, mask, hd]
  | holding outcome duration =>
    simp only [advance, mask]
    cases s.settlement.trySettle name with
    | mk raised settlement => cases raised <;> rfl
  | won outcome duration =>
    simp only [advance, mask]
    cases s.settlement.record name outcome duration with
    | mk progress? settlement => cases progress? <;> rfl
  | entered progress => rfl
  | reporting => simp only [advance, mask, Option.map_some, m.panics_add]
  | reported => rfl
  | telling =>
    rw [advance, advance, tell_mask, phaseLocked_mask]
    cases s.phaseLocked <;> rfl
  | «over» settled => rfl

lemma stepTask_mask (m : Mask) (s : System) (t : Task) (action : Action) :
    (s.mask m).stepTask t (action.mask m) = (s.stepTask t action).map (mask m) := by
  cases action with
  | submit _ | schedule _ | take _ | check _ | fire _ | cancel _ =>
    simp only [stepTask, Option.map_if]
    rfl
  | equip name creation =>
    by_cases hw : t.work = .checked
    · obtain ⟨_, fresh⟩ := s
      cases fresh <;> cases creation <;> simp only [stepTask, Action.mask, hw] <;> rfl
    · simp only [stepTask, Action.mask, if_pos hw, Option.map_none]
  | call _ | reply _ _ | time _ _ =>
    cases hw : t.work <;> simp only [stepTask, Action.mask, hw] <;> rfl
  | advance side name panics =>
    cases side with
    | worker =>
      cases hw : t.work <;> simp only [stepTask, Action.mask, hw, Option.map_none]
      rename_i attempt
      rw [advance_mask]
      cases s.advance t.name panics attempt <;> rfl
    | timer =>
      cases he : t.expiry <;> simp only [stepTask, Action.mask, he, Option.map_none]
      rename_i attempt
      rw [advance_mask]
      cases s.advance t.name panics attempt <;> rfl
  | _ => rfl

lemma sweep_mask (m : Mask) (s : System) : (s.mask m).sweep = s.sweep.map (mask m) := by
  have hw' : (s.mask m).watch = s.watch := rfl
  rw [sweep, sweep, hw']
  cases s.watch with
  | sweeping unswept =>
    cases unswept with
    | nil => rfl
    | cons name unswept =>
      simp only [cancelUnsettled_mask]
      rfl
  | _ => rfl

lemma step_mask (ha : action.readsAbort = false) :
    (s.mask m).step (action.mask m) = (s.step action).map (mask m) := by
  cases hn : action.name? with
  | some name =>
    have hn' : (action.mask m).name? = some name := by
      rw [← hn]
      cases action <;> rfl
    rw [step_eq_bind hn, step_eq_bind hn']
    change ((s.task? name).bind fun t => (s.mask m).stepTask t (action.mask m)) = _
    simp only [stepTask_mask]
    cases s.task? name <;> rfl
  | none =>
    cases action with
    | testAbort | requestAbort | signalAbort => cases ha
    | launch =>
      simp only [step, launch, Action.mask, Option.map_if]
      rfl
    | lock | giveUp | sleep | wake | stir =>
      simp only [step, Action.mask, Option.map_if]
      rfl
    | testComplete =>
      by_cases hw : s.watch = .unaborted
      · cases hc : s.settlement.ledger.isComplete <;>
          simp only [step, Action.mask, mask, hw, hc] <;> rfl
      · have hnone : s.step .testComplete = none := if_pos hw
        rw [hnone]
        exact if_pos hw
    | sweep => exact sweep_mask m s
    | close =>
      simp only [step, close, Action.mask, Option.map_if]
      rfl
    | complete panics =>
      cases hw : s.watch <;> simp only [step, Action.mask, mask, hw] <;> rfl
    | _ => cases hn

lemma step_calm (s : System) (action : Action) :
    (s.mask .calm).step (action.mask .calm) = (s.step action).map (mask .calm) := by
  cases action with
  | testAbort | requestAbort =>
    simp only [step, Action.mask, apply_ite (Option.map (mask .calm)), Option.map_none,
      Option.map_some]
    rfl
  | signalAbort =>
    simp only [step, Action.mask, phaseLocked_mask, tell_mask,
      apply_ite (Option.map (mask .calm)), Option.map_none, Option.map_some]
    rfl
  | _ => exact step_mask rfl

lemma steps_calm (s : System) (actions : List Action) :
    (s.mask .calm).steps (actions.map (Action.mask .calm)) = (s.steps actions).map (mask .calm) := by
  induction actions generalizing s with
  | nil => rfl
  | cons action actions ih =>
    rw [List.map_cons, steps_cons, steps_cons, step_calm]
    cases s.step action with
    | none => rfl
    | some s' => exact ih s'

end System

end ClassBatch.Batch
