import ClassBatch.Tool.Cfr
import ClassBatch.Tool.Execution
import Mathlib.Data.List.Basic

/-! How Java is looked at until the first round that decides, and what is done and answered then. -/

namespace ClassBatch.Tool.Java

open Files
open Text (Bytes)

section Rounds

def Round.idle : Round :=
  ⟨.running, false⟩

inductive Round.Decides : Round → Verdict → Prop
  | exited (status : ExitStatus) (cancelled : Bool) :
      Decides ⟨.exited status, cancelled⟩ (.exited status)
  | failed (reason : String) (cancelled : Bool) :
      Decides ⟨.failed reason, cancelled⟩ (.failed reason)
  | cancelled : Decides ⟨.running, true⟩ .cancelled

def DecidedBy (rounds : List Round) (verdict : Verdict) : Prop :=
  ∃ earlier last, rounds = earlier ++ [last] ∧ (∀ r ∈ earlier, r = Round.idle) ∧
    last.Decides verdict

end Rounds

variable {rounds : List Round} {round : Round} {verdict : Verdict}

lemma watch_idle (h : ∀ r ∈ rounds, r = Round.idle) (later : List Round) :
    watch (rounds ++ later) =
      (List.replicate rounds.length .look ++ (watch later).1, (watch later).2) := by
  induction rounds with
  | nil => rfl
  | cons r rounds ih =>
    obtain ⟨rfl, hrounds⟩ := List.forall_mem_cons.mp h
    rw [List.cons_append, Round.idle, watch, ih hrounds]
    rfl

lemma Round.Decides.watch (h : round.Decides verdict) (later : List Round) :
    watch (round :: later) = (.look :: verdict.rest, some verdict) := by
  cases h <;> rfl

lemma Round.Decides.eq_cancelled (h : round.Decides verdict)
    (hrunning : round.glance = .running) : verdict = .cancelled := by
  cases h with
  | exited | failed => cases hrunning
  | cancelled => rfl

lemma DecidedBy.watch (h : DecidedBy rounds verdict) (later : List Round) :
    watch (rounds ++ later) =
      (List.replicate rounds.length .look ++ verdict.rest, some verdict) := by
  obtain ⟨earlier, last, rfl, hidle, hlast⟩ := h
  rw [List.append_assoc, List.singleton_append, watch_idle hidle, hlast.watch]
  simp [List.replicate_add]

lemma watch_eq_none_iff : (watch rounds).2 = none ↔ ∀ r ∈ rounds, r = Round.idle := by
  refine ⟨fun h => ?_, fun h => ?_⟩
  · fun_induction watch rounds with
    | case1 => nofun
    | case2 | case3 | case4 => cases h
    | case5 rest ih => exact List.forall_mem_cons.mpr ⟨rfl, ih h⟩
  · have hwatch := watch_idle h []
    rw [List.append_nil] at hwatch
    rw [hwatch]
    rfl

lemma exists_decidedBy (h : (watch rounds).2 = some verdict) :
    ∃ seen later, rounds = seen ++ later ∧ DecidedBy seen verdict := by
  fun_induction watch rounds with
  | case1 => cases h
  | case2 status cancelled later =>
    cases h
    exact ⟨[_], later, rfl, [], _, rfl, by simp, .exited status cancelled⟩
  | case3 reason cancelled later =>
    cases h
    exact ⟨[_], later, rfl, [], _, rfl, by simp, .failed reason cancelled⟩
  | case4 later =>
    cases h
    exact ⟨[_], later, rfl, [], _, rfl, by simp, .cancelled⟩
  | case5 rest ih =>
    obtain ⟨seen, later, rfl, earlier, last, rfl, hidle, hlast⟩ := ih h
    refine ⟨Round.idle :: (earlier ++ [last]), later, rfl, ?_⟩
    refine ⟨Round.idle :: earlier, last, rfl, ?_, hlast⟩
    exact List.forall_mem_cons.mpr ⟨rfl, hidle⟩

namespace Pipe

structure Sound (p : Pipe) : Prop where
  kept : p.written = p.held ++ p.unread
  ended : p.isOver = true → p.isOpen = false ∧ p.unread = []
  joined : ∀ data, p.joined = some data → p.isOver = true ∧ data = p.held

variable {p p' : Pipe} {flow : Flow}

lemma joined_step (h : p.step flow = some p') : p'.joined = p.joined := by
  cases flow <;> simp only [step, Option.ite_none_right_eq_some, Option.some.injEq] at h
  case close => rw [← h]
  all_goals rw [← h.2]

lemma Sound.step (h : p.Sound) (hstep : p.step flow = some p') : p'.Sound := by
  cases flow with
  | write data =>
    obtain ⟨hopen, he⟩ := Option.ite_none_right_eq_some.mp hstep
    cases he
    -- a reader that met the end leaves no one who could write
    have hnotOver : p.isOver ≠ true := fun hover => by simp [(h.ended hover).1] at hopen
    refine ⟨?_, fun hover => absurd hover hnotOver, h.joined⟩
    simp [h.kept]
  | close =>
    cases hstep
    exact ⟨h.kept, fun hover => ⟨rfl, (h.ended hover).2⟩, h.joined⟩
  | read count =>
    obtain ⟨hcount, he⟩ := Option.ite_none_right_eq_some.mp hstep
    cases he
    refine ⟨?_, fun hover => ?_, fun data hdata => ?_⟩
    · simp [h.kept]
    · simp [h.ended hover]
    · obtain ⟨hover, hheld⟩ := h.joined data hdata
      simp [hover, hheld, (h.ended hover).2]
  | finish =>
    obtain ⟨hend, he⟩ := Option.ite_none_right_eq_some.mp hstep
    cases he
    have hclosed : p.isOpen = false ∧ p.unread = [] := by simpa using hend
    exact ⟨h.kept, fun _ => hclosed, fun data hdata => ⟨rfl, (h.joined data hdata).2⟩⟩

lemma isSome_of_join (h : p.join = some p') : p'.joined.isSome = true := by
  obtain ⟨-, he⟩ := Option.ite_none_right_eq_some.mp h
  cases he
  rfl

lemma Sound.join (h : p.Sound) (hjoin : p.join = some p') : p'.Sound := by
  obtain ⟨hover, he⟩ := Option.ite_none_right_eq_some.mp hjoin
  cases he
  exact ⟨h.kept, h.ended, fun data hdata => ⟨hover, (Option.some.inj hdata).symm⟩⟩

lemma Sound.joined_eq (h : p.Sound) (hjoined : p.joined.isSome = true) :
    p.joined = some p.written ∧ p.isOpen = false := by
  obtain ⟨data, hdata⟩ := Option.isSome_iff_exists.mp hjoined
  obtain ⟨hover, rfl⟩ := h.joined data hdata
  obtain ⟨hclosed, hunread⟩ := h.ended hover
  rw [hdata, h.kept, hunread, List.append_nil]
  exact ⟨rfl, hclosed⟩

end Pipe

def Stream.joining : Stream → Act
  | out => .joinStdout
  | err => .joinStderr

lemma Stream.joining_mem_rest (stream : Stream) (verdict : Verdict) :
    stream.joining ∈ verdict.rest := by
  cases stream <;> cases verdict <;> simp [joining, Verdict.rest, abandon]

namespace Execution

variable {s s' : Execution} {event : Event} {act : Act} {stream : Stream} {p : Pipe}
  {acts : List Act}

inductive Performs (s : Execution) : Act → Execution → Prop
  | kill : Performs s .kill { s with life := s.life.killed }
  | reap : s.life ≠ .running → Performs s .reap { s with life := .reaped }
  | join (stream : Stream) (p : Pipe) : (s.pipe stream).join = some p →
      Performs s stream.joining (s.setPipe stream p)

lemma perform_joining (s : Execution) (stream : Stream) :
    s.perform stream.joining = s.join stream := by
  cases stream <;> rfl

lemma performs_of_join (stream : Stream) (h : s.join stream = some s') :
    Performs s stream.joining s' := by
  obtain ⟨p, hp, he⟩ := Option.bind_eq_some_iff.mp h
  cases he
  exact .join stream p hp

lemma performs_of_perform (h : s.perform act = some s') : Performs s act s' := by
  cases act with
  | look => cases h
  | kill =>
    cases h
    exact .kill
  | reap =>
    obtain ⟨hlife, he⟩ := Option.ite_none_left_eq_some.mp h
    cases he
    exact .reap hlife
  | joinStdout => exact performs_of_join .out h
  | joinStderr => exact performs_of_join .err h

inductive Rule (s : Execution) : Event → Execution → Prop
  | flow (stream : Stream) (flow : Pipe.Flow) (p : Pipe) : (s.pipe stream).step flow = some p →
      Rule s (.flow stream flow) (s.setPipe stream p)
  | exit (status : ExitStatus) : s.life = .running →
      Rule s (.exit status) { s with life := .ended status }
  | cancel : Rule s .cancel { s with cancelled := true }
  | fault (reason : String) : s.stand = .looking →
      Rule s (.look (some reason)) (s.decide (.failed reason) (.failed reason))
  | pass : s.stand = .looking → s.life = .running →
      Rule s (.look none) { s with stand := .checking }
  | catchUp (status : ExitStatus) : s.stand = .looking → s.life = .ended status →
      Rule s (.look none) ({ s with life := .reaped }.decide (.exited status) (.exited status))
  | giveUp : s.stand = .checking → s.cancelled = true →
      Rule s .check (s.decide .running .cancelled)
  | goOn : s.stand = .checking → s.cancelled = false →
      Rule s .check { s with stand := .looking, rounds := s.rounds ++ [Round.idle] }
  | act (verdict : Verdict) (act : Act) (acts : List Act) (next : Execution) :
      s.stand = .closing verdict (act :: acts) → Performs s act next →
      Rule s .act { next with stand := .closing verdict acts }

lemma rule_of_step (h : s.step event = some s') : Rule s event s' := by
  cases event with
  | flow stream flow =>
    obtain ⟨p, hp, he⟩ := Option.bind_eq_some_iff.mp h
    cases he
    exact .flow stream flow p hp
  | exit status =>
    obtain ⟨hlife, he⟩ := Option.ite_none_right_eq_some.mp h
    cases he
    exact .exit status hlife
  | cancel =>
    cases h
    exact .cancel
  | look fault =>
    obtain ⟨hstand, he⟩ := Option.ite_none_right_eq_some.mp h
    unfold look at he
    split at he
    · cases he
      exact .fault _ hstand
    · cases he
      exact .pass hstand ‹_›
    · cases he
      exact .catchUp _ hstand ‹_›
    · cases he
  | check =>
    obtain ⟨hstand, he⟩ := Option.ite_none_right_eq_some.mp h
    unfold check at he
    split at he
    · cases he
      exact .giveUp hstand ‹_›
    · cases he
      exact .goOn hstand (Bool.eq_false_iff.mpr ‹_›)
  | act =>
    simp only [step] at h
    split at h
    · obtain ⟨next, hnext, he⟩ := Option.bind_eq_some_iff.mp h
      cases he
      exact .act _ _ _ next ‹_› (performs_of_perform hnext)
    · cases h

@[simp] lemma pipe_setPipe_self (s : Execution) (stream : Stream) (p : Pipe) :
    (s.setPipe stream p).pipe stream = p :=
  if_pos rfl

lemma pipe_setPipe_of_ne {other : Stream} (h : other ≠ stream) (s : Execution) (p : Pipe) :
    (s.setPipe stream p).pipe other = s.pipe other :=
  if_neg h

lemma forall_pipe_setPipe (holds : Stream → Pipe → Prop) (hp : holds stream p)
    (h : ∀ other, holds other (s.pipe other)) (other : Stream) :
    holds other ((s.setPipe stream p).pipe other) := by
  by_cases hother : other = stream
  · subst hother
    rwa [pipe_setPipe_self]
  · rw [pipe_setPipe_of_ne hother]
    exact h other

lemma Performs.rounds_eq (h : Performs s act s') : s'.rounds = s.rounds := by
  cases h <;> rfl

structure Later (s s' : Execution) : Prop where
  stopped : s.life ≠ .running → s'.life ≠ .running
  reaped : s.life = .reaped → s'.life = .reaped
  joined : ∀ stream, (s.pipe stream).joined.isSome = true → (s'.pipe stream).joined.isSome = true

lemma later_setPipe (h : (s.pipe stream).joined.isSome = true → p.joined.isSome = true) :
    Later s (s.setPipe stream p) := by
  refine ⟨id, id, ?_⟩
  exact forall_pipe_setPipe
    (fun other q => (s.pipe other).joined.isSome = true → q.joined.isSome = true) h fun _ => id

lemma later_life {life : Life} (hstopped : s.life ≠ .running → life ≠ .running)
    (hreaped : s.life = .reaped → life = .reaped) : Later s { s with life } :=
  ⟨hstopped, hreaped, fun _ => id⟩

lemma killed_ne_running (life : Life) : life.killed ≠ .running := by
  cases life <;> nofun

lemma Performs.later (h : Performs s act s') : Later s s' := by
  cases h with
  | kill =>
    refine later_life (fun _ => killed_ne_running s.life) fun hreaped => ?_
    rw [hreaped]
    rfl
  | reap => exact later_life (fun _ => nofun) fun _ => rfl
  | join stream p hp => exact later_setPipe fun _ => Pipe.isSome_of_join hp

def Accomplished (s : Execution) : Act → Prop
  | .look => True
  | .kill => s.life ≠ .running
  | .reap => s.life = .reaped
  | .joinStdout => (s.pipe .out).joined.isSome = true
  | .joinStderr => (s.pipe .err).joined.isSome = true

lemma Accomplished.later (h : s.Accomplished act) (hlater : Later s s') : s'.Accomplished act := by
  cases act with
  | look => trivial
  | kill => exact hlater.stopped h
  | reap => exact hlater.reaped h
  | joinStdout => exact hlater.joined .out h
  | joinStderr => exact hlater.joined .err h

lemma accomplished_joining :
    s.Accomplished stream.joining ↔ (s.pipe stream).joined.isSome = true := by
  cases stream <;> exact Iff.rfl

lemma Performs.accomplished (h : Performs s act s') : s'.Accomplished act := by
  cases h with
  | kill => exact killed_ne_running s.life
  | reap => rfl
  | join stream p hp =>
    rw [accomplished_joining, pipe_setPipe_self]
    exact Pipe.isSome_of_join hp

structure Sound (s : Execution) : Prop where
  pipes : ∀ stream, (s.pipe stream).Sound
  undecided : s.stand.verdict? = none → ∀ r ∈ s.rounds, r = Round.idle
  decided : ∀ verdict acts, s.stand = .closing verdict acts → DecidedBy s.rounds verdict
  reaped : ∀ status acts, s.stand = .closing (.exited status) acts → s.life = .reaped
  done : ∀ verdict acts, s.stand = .closing verdict acts →
    ∃ past, verdict.rest = past ++ acts ∧ ∀ act ∈ past, s.Accomplished act

lemma Performs.pipes (hperform : Performs s act s') (h : ∀ stream, (s.pipe stream).Sound)
    (stream : Stream) : (s'.pipe stream).Sound := by
  cases hperform with
  | kill | reap => exact h stream
  | join joined p hp => exact forall_pipe_setPipe (fun _ => Pipe.Sound) ((h joined).join hp) h stream

lemma Sound.of_later (h : Sound s) (hlater : Later s s') (hpipes : ∀ stream, (s'.pipe stream).Sound)
    (hstand : s'.stand = s.stand) (hrounds : s'.rounds = s.rounds) : Sound s' := by
  refine ⟨hpipes, ?_, ?_, ?_, ?_⟩
  · rw [hstand, hrounds]
    exact h.undecided
  · rw [hstand, hrounds]
    exact h.decided
  · rw [hstand]
    exact fun status acts hs => hlater.reaped (h.reaped status acts hs)
  · rw [hstand]
    intro verdict acts hs
    obtain ⟨past, hpast, hdone⟩ := h.done verdict acts hs
    exact ⟨past, hpast, fun act hact => (hdone act hact).later hlater⟩

lemma Sound.decide {glance : Glance} (h : Sound s) (hstand : s.stand.verdict? = none)
    (hdecides : Round.Decides ⟨glance, s.cancelled⟩ verdict)
    (hreaped : ∀ status, verdict = .exited status → s.life = .reaped) :
    Sound (s.decide glance verdict) := by
  refine ⟨h.pipes, nofun, ?_, ?_, ?_⟩
  · rintro _ acts ⟨⟩
    exact ⟨s.rounds, _, rfl, h.undecided hstand, hdecides⟩
  · rintro status acts ⟨⟩
    exact hreaped status rfl
  · rintro _ acts ⟨⟩
    exact ⟨[], rfl, nofun⟩

lemma Sound.rule (h : Sound s) (hrule : Rule s event s') : Sound s' := by
  cases hrule with
  | flow stream flow p hp =>
    have hlater : Later s (s.setPipe stream p) :=
      later_setPipe fun hjoined => by rwa [Pipe.joined_step hp]
    have hpipes : ∀ other, ((s.setPipe stream p).pipe other).Sound :=
      forall_pipe_setPipe (fun _ => Pipe.Sound) ((h.pipes stream).step hp) h.pipes
    exact h.of_later hlater hpipes rfl rfl
  | exit status hlife =>
    refine h.of_later (later_life (fun _ => nofun) ?_) h.pipes rfl rfl
    rw [hlife]
    nofun
  | cancel => exact h.of_later ⟨id, id, fun _ => id⟩ h.pipes rfl rfl
  | fault reason hstand => exact h.decide (by rw [hstand]; rfl) (.failed reason _) nofun
  | pass hstand _ =>
    exact ⟨h.pipes, fun _ => h.undecided (by rw [hstand]; rfl), nofun, nofun, nofun⟩
  | catchUp status hstand hlife =>
    have hreaped : Sound { s with life := .reaped } :=
      h.of_later (later_life (fun _ => nofun) fun _ => rfl) h.pipes rfl rfl
    exact hreaped.decide (by rw [hstand]; rfl) (.exited status _) fun _ _ => rfl
  | giveUp hstand hcancelled =>
    refine h.decide (by rw [hstand]; rfl) ?_ nofun
    rw [hcancelled]
    exact .cancelled
  | goOn hstand _ =>
    refine ⟨h.pipes, fun _ => List.forall_mem_append.mpr ⟨?_, ?_⟩, nofun, nofun, nofun⟩
    · exact h.undecided (by rw [hstand]; rfl)
    · exact List.forall_mem_singleton.mpr rfl
  | act verdict act acts next hstand hperform =>
    have hlater := hperform.later
    have hrounds := hperform.rounds_eq
    refine ⟨hperform.pipes h.pipes, nofun, ?_, ?_, ?_⟩
    · rintro _ _ ⟨⟩
      exact hrounds ▸ h.decided _ _ hstand
    · rintro status _ ⟨⟩
      exact hlater.reaped (h.reaped _ _ hstand)
    · rintro _ _ ⟨⟩
      obtain ⟨past, hpast, hdone⟩ := h.done _ _ hstand
      -- what was done before stays done, and the act itself is done now
      have hall : ∀ other ∈ past ++ [act], next.Accomplished other := by
        refine List.forall_mem_append.mpr ⟨fun other hother => ?_, ?_⟩
        · exact (hdone other hother).later hlater
        · exact List.forall_mem_singleton.mpr hperform.accomplished
      refine ⟨past ++ [act], by simpa using hpast, fun other hother => ?_⟩
      have hother := hall other hother
      cases other <;> exact hother

lemma sound_start : Sound {} :=
  ⟨fun _ => ⟨rfl, nofun, nofun⟩, fun _ => nofun, nofun, nofun, nofun⟩

def Reaches (s s' : Execution) : Prop :=
  ∃ events, s.steps events = some s'

lemma Reaches.refl (s : Execution) : Reaches s s :=
  ⟨[], rfl⟩

lemma Reaches.trans {next : Execution} (h : Reaches s next) (h' : Reaches next s') :
    Reaches s s' := by
  obtain ⟨events, hevents⟩ := h
  obtain ⟨later, hlater⟩ := h'
  refine ⟨events ++ later, ?_⟩
  rw [steps, List.foldlM_append, ← steps, hevents]
  exact hlater

lemma reaches_of_step (event : Event) (h : s.step event = some s') : Reaches s s' :=
  ⟨[event], by rw [steps, List.foldlM_cons, h]; rfl⟩

lemma Rule.decided (h : Rule s event s') (hdecided : s.stand.verdict? = some verdict) :
    s'.stand.verdict? = some verdict ∧ s'.rounds = s.rounds := by
  cases h with
  | flow | exit | cancel => exact ⟨hdecided, rfl⟩
  | fault _ hstand | pass hstand | catchUp _ hstand | giveUp hstand | goOn hstand =>
    rw [hstand] at hdecided
    cases hdecided
  | act _ act acts next hstand hperform =>
    have hrounds := hperform.rounds_eq
    rw [hstand] at hdecided
    exact ⟨hdecided, hrounds⟩

lemma Reaches.preserves {holds : Execution → Prop} (h : Reaches s s')
    (hrule : ∀ {s event s'}, Rule s event s' → holds s → holds s') (hs : holds s) : holds s' := by
  obtain ⟨events, hsteps⟩ := h
  induction events generalizing s with
  | nil =>
    cases hsteps
    exact hs
  | cons event events ih =>
    obtain ⟨next, hnext, hsteps⟩ := Option.bind_eq_some_iff.mp hsteps
    exact ih (hrule (rule_of_step hnext) hs) hsteps

lemma Reaches.decided (h : Reaches s s') (hdecided : s.stand.verdict? = some verdict) :
    s'.stand.verdict? = some verdict ∧ s'.rounds = s.rounds := by
  let Stays (next : Execution) : Prop :=
    next.stand.verdict? = some verdict ∧ next.rounds = s.rounds
  have hrule {next event later} (hrule : Rule next event later) (hstays : Stays next) :
      Stays later := by
    obtain ⟨hlater, hrounds⟩ := hrule.decided hstays.1
    exact ⟨hlater, hrounds.trans hstays.2⟩
  exact h.preserves hrule ⟨hdecided, rfl⟩

lemma Sound.reaches (h : Sound s) (hreach : Reaches s s') : Sound s' :=
  hreach.preserves (fun hrule hs => hs.rule hrule) h

lemma Sound.all_done (h : Sound s) (hstand : s.stand = .closing verdict []) :
    s.life = .reaped ∧ ∀ stream, (s.pipe stream).joined.isSome = true := by
  obtain ⟨past, hpast, hdone⟩ := h.done verdict [] hstand
  rw [List.append_nil] at hpast
  subst hpast
  refine ⟨?_, fun stream => accomplished_joining.mp (hdone _ (stream.joining_mem_rest verdict))⟩
  cases verdict with
  | exited status => exact h.reaped status [] hstand
  | failed reason | cancelled => exact hdone .reap (by simp [Verdict.rest, abandon])

structure Returned (s : Execution) (label : String) (verdict : Verdict) : Prop where
  reaped : s.life = .reaped
  joined : ∀ stream, (s.pipe stream).joined = some (s.pipe stream).written ∧
    (s.pipe stream).isOpen = false
  answer : s.answer? label =
    some (conclude label (s.pipe .out).written (s.pipe .err).written verdict)

lemma Sound.returned (h : Sound s) (hstand : s.stand = .closing verdict []) (label : String) :
    s.Returned label verdict := by
  obtain ⟨hreaped, hall⟩ := h.all_done hstand
  have hjoined stream := (h.pipes stream).joined_eq (hall stream)
  refine ⟨hreaped, hjoined, ?_⟩
  simp only [answer?, hstand, (hjoined _).1]
  rfl

lemma Sound.watch_rounds (h : Sound s) : (watch s.rounds).2 = s.stand.verdict? := by
  cases hstand : s.stand with
  | looking | checking => exact watch_eq_none_iff.mpr (h.undecided (by rw [hstand]; rfl))
  | closing verdict acts =>
    have hwatch := (h.decided verdict acts hstand).watch []
    rw [List.append_nil] at hwatch
    rw [hwatch]
    rfl

lemma setPipe_setPipe (s : Execution) (stream : Stream) (p p' : Pipe) :
    (s.setPipe stream p).setPipe stream p' = s.setPipe stream p' := by
  simp only [setPipe, mk.injEq, true_and, and_true]
  funext other
  split <;> rfl

lemma reaches_setPipe (flow : Pipe.Flow) (h : (s.pipe stream).step flow = some p) :
    Reaches s (s.setPipe stream p) := by
  apply reaches_of_step (.flow stream flow)
  rw [step, h]
  rfl

lemma exists_over (s : Execution) (stream : Stream) :
    ∃ p, Reaches s (s.setPipe stream p) ∧ p.isOver = true ∧
      p.written = (s.pipe stream).written := by
  -- the stream is closed, read, and found at its end
  let closed : Pipe := { s.pipe stream with isOpen := false }
  let read : Pipe := { closed with unread := [], held := closed.held ++ closed.unread }
  have hclose : Reaches s (s.setPipe stream closed) := reaches_setPipe .close rfl
  have hread : Reaches (s.setPipe stream closed) (s.setPipe stream read) := by
    rw [← setPipe_setPipe s stream closed read]
    apply reaches_setPipe (.read closed.unread.length)
    simp [Pipe.step, read]
  have hfinish : Reaches (s.setPipe stream read)
      (s.setPipe stream { read with isOver := true }) := by
    rw [← setPipe_setPipe s stream read { read with isOver := true }]
    apply reaches_setPipe .finish
    simp [Pipe.step, read, closed]
  exact ⟨_, (hclose.trans hread).trans hfinish, rfl, rfl⟩

def record (s : Execution) : List Round × (Stream → Bytes) :=
  (s.rounds, fun stream => (s.pipe stream).written)

lemma record_setPipe (h : p.written = (s.pipe stream).written) :
    (s.setPipe stream p).record = s.record := by
  have hwritten := forall_pipe_setPipe (fun other q => q.written = (s.pipe other).written) h
    fun _ => rfl
  exact Prod.ext rfl (funext hwritten)

lemma reaches_act {next : Execution} (hstand : s.stand = .closing verdict (act :: acts))
    (h : s.perform act = some next) : Reaches s { next with stand := .closing verdict acts } := by
  apply reaches_of_step .act
  simp only [step, hstand, h]
  rfl

lemma kill_mem_of_reap {past : List Act} (h : verdict.rest = past ++ .reap :: acts) :
    Act.kill ∈ past := by
  have hreap : Act.reap ∈ verdict.rest := by simp [h]
  cases verdict with
  | exited status => simp [Verdict.rest] at hreap
  | failed reason | cancelled =>
    cases past with
    | nil => cases h
    | cons first past =>
      obtain ⟨rfl, -⟩ := List.cons.inj h
      exact List.mem_cons_self

lemma Sound.ended_of_reap (h : Sound s) (hstand : s.stand = .closing verdict (.reap :: acts)) :
    s.life ≠ .running := by
  obtain ⟨past, hpast, hdone⟩ := h.done verdict _ hstand
  exact hdone .kill (kill_mem_of_reap hpast)

lemma exists_join (stream : Stream) (hstand : s.stand = .closing verdict (stream.joining :: acts)) :
    ∃ s', Reaches s s' ∧ s'.stand = .closing verdict acts ∧ s'.record = s.record := by
  obtain ⟨p, hreach, hover, hwritten⟩ := exists_over s stream
  let joined : Pipe := { p with joined := some p.held }
  have hjoin : (s.setPipe stream p).perform stream.joining =
      some ((s.setPipe stream p).setPipe stream joined) := by
    rw [perform_joining, join, pipe_setPipe_self, Pipe.join, if_pos hover]
    rfl
  refine ⟨_, hreach.trans (reaches_act hstand hjoin), rfl, ?_⟩
  rw [setPipe_setPipe]
  exact record_setPipe (p := joined) hwritten

lemma Sound.exists_perform (h : Sound s) (hstand : s.stand = .closing verdict (act :: acts)) :
    ∃ s', Reaches s s' ∧ s'.stand = .closing verdict acts ∧ s'.record = s.record := by
  cases act with
  | look =>
    obtain ⟨past, hpast, -⟩ := h.done verdict _ hstand
    have hlook : Act.look ∈ verdict.rest := by simp [hpast]
    cases verdict <;> simp [Verdict.rest, abandon] at hlook
  | kill => exact ⟨_, reaches_act hstand rfl, rfl, rfl⟩
  | reap => exact ⟨_, reaches_act hstand (if_neg (h.ended_of_reap hstand)), rfl, rfl⟩
  | joinStdout => exact exists_join .out hstand
  | joinStderr => exact exists_join .err hstand

lemma Sound.exists_return (h : Sound s) (hstand : s.stand = .closing verdict acts) :
    ∃ s', Reaches s s' ∧ s'.stand = .closing verdict [] ∧ s'.record = s.record := by
  induction acts generalizing s with
  | nil => exact ⟨s, .refl s, hstand, rfl⟩
  | cons act acts ih =>
    obtain ⟨next, hnext, hclosing, hrecord⟩ := h.exists_perform hstand
    obtain ⟨s', hs', hreturn, hrecord'⟩ := ih (h.reaches hnext) hclosing
    exact ⟨s', hnext.trans hs', hreturn, hrecord'.trans hrecord⟩

structure Settled (s : Execution) (verdict : Verdict) : Prop where
  decided : DecidedBy s.rounds verdict
  stays : ∀ s', Reaches s s' → s'.stand.verdict? = some verdict ∧ s'.rounds = s.rounds
  returns : ∃ s', Reaches s s' ∧ s'.stand = .closing verdict [] ∧ s'.record = s.record

lemma Sound.settled (h : s.Sound)
    (hverdict : s.stand.verdict? = some verdict) : s.Settled verdict := by
  cases hstand : s.stand with
  | looking | checking =>
    rw [hstand] at hverdict
    cases hverdict
  | closing decided acts =>
    rw [hstand] at hverdict
    cases hverdict
    refine ⟨h.decided _ acts hstand, fun s' hreach => hreach.decided ?_, h.exists_return hstand⟩
    rw [hstand]
    rfl

lemma reaches_idle (pipe : Stream → Pipe) (rounds : List Round) (n : ℕ) :
    Reaches { pipe, rounds } { pipe, rounds := rounds ++ List.replicate n Round.idle } := by
  induction n with
  | zero =>
    rw [List.replicate_zero, List.append_nil]
    exact .refl _
  | succ n ih =>
    refine ih.trans ⟨[.look none, .check], ?_⟩
    rw [List.replicate_succ', ← List.append_assoc]
    rfl

lemma exists_decision (h : round.Decides verdict) (pipe : Stream → Pipe) (rounds : List Round) :
    ∃ s, Reaches { pipe, rounds } s ∧ s.stand = .closing verdict verdict.rest ∧
      s.pipe = pipe ∧ s.rounds = rounds ++ [round] := by
  cases h with
  | exited status cancelled =>
    cases cancelled with
    | false => exact ⟨_, ⟨[.exit status, .look none], rfl⟩, rfl, rfl, rfl⟩
    | true => exact ⟨_, ⟨[.exit status, .cancel, .look none], rfl⟩, rfl, rfl, rfl⟩
  | failed reason cancelled =>
    cases cancelled with
    | false => exact ⟨_, ⟨[.look (some reason)], rfl⟩, rfl, rfl, rfl⟩
    | true => exact ⟨_, ⟨[.cancel, .look (some reason)], rfl⟩, rfl, rfl, rfl⟩
  | cancelled => exact ⟨_, ⟨[.cancel, .look none, .check], rfl⟩, rfl, rfl, rfl⟩

lemma exists_content (content : Stream → Bytes) :
    ∃ pipe, Reaches {} { pipe } ∧ ∀ stream, (pipe stream).written = content stream := by
  refine ⟨_, ⟨[.flow .out (.write (content .out)), .flow .err (.write (content .err))], rfl⟩, ?_⟩
  rintro (_ | _) <;> rfl

lemma exists_returned (h : DecidedBy rounds verdict) (content : Stream → Bytes) :
    ∃ s, Reaches {} s ∧ s.stand = .closing verdict [] ∧ s.record = (rounds, content) := by
  obtain ⟨earlier, last, rfl, hidle, hlast⟩ := h
  obtain ⟨pipe, hwritten, hcontent⟩ := exists_content content
  obtain ⟨s, hdecided, hstand, hpipe, hrounds⟩ :=
    exists_decision hlast pipe (List.replicate earlier.length Round.idle)
  have hreach : Reaches {} s :=
    (hwritten.trans (reaches_idle pipe [] earlier.length)).trans hdecided
  obtain ⟨s', hreturn, hstand', hrecord⟩ := (sound_start.reaches hreach).exists_return hstand
  refine ⟨s', hreach.trans hreturn, hstand', hrecord.trans (Prod.ext ?_ (funext fun stream => ?_))⟩
  · rw [record, hrounds, ← List.eq_replicate_length.mpr hidle]
  · rw [record, hpipe]
    exact hcontent stream

end Execution

end ClassBatch.Tool.Java
