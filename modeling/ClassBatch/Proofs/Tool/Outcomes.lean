import ClassBatch.Proofs.Tool.Executions

/-! What running Java answers, over all its executions, and what CFR makes of that. -/

namespace ClassBatch.Tool

open Files
open Text (Bytes)

namespace Cfr

variable {name : String} {o : Java.Output}

lemma source_of_failure (h : o.status.isSuccess = false) :
    source name o = .error (.exit o.status.message (Text.trim o.stderr)) := by
  rw [source, Java.Output.checked, h]
  rfl

lemma source_of_blank (h : o.status.isSuccess = true)
    (hblank : ∀ c ∈ o.stdout.toList, Text.isBlank c = true) :
    source name o = .error (.noOutput name) := by
  rw [source, Java.Output.checked, h]
  exact if_pos (List.all_eq_true.mpr hblank)

lemma source_of_text (h : o.status.isSuccess = true)
    (htext : ∃ c ∈ o.stdout.toList, Text.isBlank c = false) : source name o = .ok o.stdout := by
  rw [source, Java.Output.checked, h]
  refine if_neg fun hall => ?_
  obtain ⟨c, hc, hne⟩ := htext
  rw [List.all_eq_true.mp hall c hc] at hne
  cases hne

structure Classifies (name : String) (verdict : Java.Verdict) (stdout stderr : String)
    (answer : Except DecompileError String) : Prop where
  ok : ∀ text, answer = .ok text ↔ ∃ status, verdict = .exited status ∧ status.isSuccess = true ∧
    stdout = text ∧ ∃ c ∈ text.toList, Text.isBlank c = false
  noOutput : ∀ other, answer = .error (.noOutput other) ↔ name = other ∧
    ∃ status, verdict = .exited status ∧ status.isSuccess = true ∧
      ∀ c ∈ stdout.toList, Text.isBlank c = true
  exit : ∀ message error, answer = .error (.exit message error) ↔
    ∃ status, verdict = .exited status ∧ status.isSuccess = false ∧
      status.message = message ∧ Text.trim stderr = error
  io : ∀ reason, answer = .error (.io reason) ↔ verdict = .failed reason
  cancelled : ∀ other, answer = .error (.cancelled other) ↔ name = other ∧ verdict = .cancelled

lemma classifies_exited (name : String) (o : Java.Output) :
    Classifies name (.exited o.status) o.stdout o.stderr (source name o) := by
  by_cases hsuccess : o.status.isSuccess = true
  · by_cases hblank : ∀ c ∈ o.stdout.toList, Text.isBlank c = true
    · rw [source_of_blank hsuccess hblank]
      constructor
      case ok | noOutput => simpa [hsuccess] using hblank
      all_goals simp [hsuccess]
    · have htext : ∃ c ∈ o.stdout.toList, Text.isBlank c = false := by
        simpa using hblank
      rw [source_of_text hsuccess htext]
      constructor
      case ok | noOutput => simpa [hsuccess] using htext
      all_goals simp [hsuccess]
  · rw [source_of_failure (Bool.eq_false_iff.mpr hsuccess)]
    constructor <;> simp [hsuccess]

lemma classifies (name : String) (verdict : Java.Verdict) (stdout stderr : Bytes) :
    Classifies name verdict (Text.decodeLossy stdout) (Text.decodeLossy stderr)
      (Java.conclude name stdout stderr verdict >>= source name) := by
  cases verdict with
  | exited status => exact classifies_exited name ⟨status, _, _⟩
  | failed reason | cancelled => constructor <;> simp [Java.conclude, bind, Except.bind]

end Cfr

namespace Java

variable {ending : Option (ExitStatus × ℕ)} {cancelled : Option ℕ} {launcher : Launcher}
  {program label : String} {arguments : List String} {d d' : Disk} {result : Finished}

lemma exists_overdue (h : ending.isSome = true ∨ cancelled.isSome = true) :
    ∃ r ∈ rounds ending cancelled, r ≠ Round.idle := by
  -- the last round comes when the program is at its end or the task is cancelled
  refine ⟨_, List.mem_map_of_mem (List.mem_range.mpr (Nat.lt_succ_self _)), fun hidle => ?_⟩
  rcases ending with _ | ⟨status, millis⟩
  · obtain ⟨c, rfl⟩ := Option.isSome_iff_exists.mp (h.resolve_left nofun)
    have hdue : c ≤ max 0 (roundAt c) * interval := by
      simp only [roundAt, interval]
      omega
    have hcancelled : Round.idle.cancelled = true :=
      (congrArg Round.cancelled hidle).symm.trans (decide_eq_true hdue)
    cases hcancelled
  · have hdue : millis < max (millis / interval + 1) (cancelled.elim 0 roundAt) * interval := by
      simp only [interval]
      omega
    have hglance : Round.idle.glance = .exited status :=
      (congrArg Round.glance hidle).symm.trans (if_pos hdue)
    cases hglance

lemma exists_verdict (ending : Option (ExitStatus × ℕ)) (cancelled : Option ℕ)
    (h : ending.isSome = true ∨ cancelled.isSome = true) :
    ∃ verdict, (watch (rounds ending cancelled)).2 = some verdict := by
  obtain ⟨r, hr, hne⟩ := exists_overdue h
  refine Option.ne_none_iff_exists'.mp fun hnone => ?_
  exact hne (watch_eq_none_iff.mp hnone r hr)

lemma cancelled_of_endless {verdict : Verdict}
    (h : (watch (rounds none cancelled)).2 = some verdict) : verdict = .cancelled := by
  obtain ⟨seen, later, hrounds, earlier, last, rfl, -, hlast⟩ := exists_decidedBy h
  have hmem : last ∈ rounds none cancelled := by simp [hrounds]
  obtain ⟨n, -, rfl⟩ := List.mem_map.mp hmem
  exact hlast.eq_cancelled rfl

structure Execution.Follows (s : Execution) (verdict : Verdict)
    (ending : Option (ExitStatus × ℕ)) (cancelled : Option ℕ) : Prop where
  reaches : Execution.Reaches {} s
  returned : s.stand = .closing verdict []
  seen : ∃ later, Java.rounds ending cancelled = s.rounds ++ later

def request (program : String) (arguments : List String) (cancelled : Option ℕ) : Request :=
  ⟨program, arguments, cancelled.map fun c => interval * roundAt c⟩

def content (result : Finished) : Stream → Bytes
  | .out => result.stdout
  | .err => result.stderr

lemma run_of_finished {verdict : Verdict}
    (hlaunch : launcher (request program arguments cancelled) d = .finished result d')
    (h : (watch (rounds (some (result.status, result.millis)) cancelled)).2 = some verdict) :
    (run launcher program arguments cancelled label d).1 =
      conclude label result.stdout result.stderr verdict := by
  rw [request] at hlaunch
  simp only [run, hlaunch, h]
  cases verdict <;> rfl

lemma run_of_stopped
    (hlaunch : launcher (request program arguments cancelled) d = .stopped d') :
    (run launcher program arguments cancelled label d).1 = .error (.cancelled label) := by
  rw [request] at hlaunch
  simp only [run, hlaunch]

/-- There is an execution in the rounds that a launch fixed, for what was written, and it answers as
the run of the program does. CFR's answer tells of that execution. -/
def Explained (t : Cfr) (launcher : Launcher) (cancelled : Option ℕ) (name : String) (d : Disk)
    (ending : Option (ExitStatus × ℕ)) (content : Stream → Bytes) : Prop :=
  ∃ (s : Execution) (verdict : Verdict), s.Follows verdict ending cancelled ∧
    (∀ stream, (s.pipe stream).written = content stream) ∧
    s.answer? name = some (run launcher t.java (t.arguments name) cancelled name d).1 ∧
    Cfr.Classifies name verdict (Text.decodeLossy (content .out))
      (Text.decodeLossy (content .err)) (t.decompile launcher cancelled name d).1

lemma explained {t : Cfr} {name : String} {verdict : Verdict} {content : Stream → Bytes}
    (h : (watch (rounds ending cancelled)).2 = some verdict)
    (hrun : (run launcher t.java (t.arguments name) cancelled name d).1 =
      conclude name (content .out) (content .err) verdict) :
    Explained t launcher cancelled name d ending content := by
  obtain ⟨seen, later, hrounds, hdecided⟩ := exists_decidedBy h
  obtain ⟨s, hreach, hstand, hrecord⟩ := Execution.exists_returned hdecided content
  obtain ⟨hseen, hcontent⟩ := Prod.ext_iff.mp hrecord
  have hwritten stream : (s.pipe stream).written = content stream := congrFun hcontent stream
  refine ⟨s, verdict, ⟨hreach, hstand, later, ?_⟩, hwritten, ?_, ?_⟩
  · rw [hrounds]
    exact congrArg (· ++ later) hseen.symm
  · rw [hrun, ← hwritten, ← hwritten]
    exact ((Execution.sound_start.reaches hreach).returned hstand name).answer
  · have hdecompile : (t.decompile launcher cancelled name d).1 =
        (run launcher t.java (t.arguments name) cancelled name d).1 >>= Cfr.source name := rfl
    rw [hdecompile, hrun]
    exact Cfr.classifies name verdict _ _

open Execution (Reaches)

/-- The first round that sees the program at its end, cannot see it, or finds it running and the
task cancelled gives the verdict, and any rounds may lead there. When an execution comes back, the
program is reaped, both readers are through, and the answer is made of the verdict and all that was
written. CFR's answer follows, also where the program is run by a launcher. -/
theorem first_decision_answers (name : String) :
    (∀ s : Execution, Reaches {} s → (watch s.rounds).2 = s.stand.verdict? ∧
      ∀ verdict, s.stand.verdict? = some verdict → s.Settled verdict) ∧
    (∀ (s : Execution) verdict, Reaches {} s → s.stand = .closing verdict [] →
      s.Returned name verdict ∧ ∀ answer, s.answer? name = some answer →
        Cfr.Classifies name verdict (Text.decodeLossy (s.pipe .out).written)
          (Text.decodeLossy (s.pipe .err).written) (answer >>= Cfr.source name)) ∧
    (∀ rounds verdict content, DecidedBy rounds verdict → ∃ s : Execution,
      Reaches {} s ∧ s.stand = .closing verdict [] ∧ s.record = (rounds, content)) ∧
    ∀ (t : Cfr) launcher cancelled d,
      (∀ result d', launcher (request t.java (t.arguments name) cancelled) d = .finished result d' →
        Explained t launcher cancelled name d (some (result.status, result.millis))
          (content result)) ∧
      ∀ d', launcher (request t.java (t.arguments name) cancelled) d = .stopped d' →
        cancelled.isSome = true → ∀ content,
          Explained t launcher cancelled name d none content := by
  have hsound {s : Execution} (hreach : Reaches {} s) : s.Sound :=
    Execution.sound_start.reaches hreach
  refine ⟨fun s hreach => ?_, fun s verdict hreach hstand => ?_, ?_, ?_⟩
  · exact ⟨(hsound hreach).watch_rounds, fun verdict => (hsound hreach).settled⟩
  · have hreturned := (hsound hreach).returned hstand name
    refine ⟨hreturned, fun answer hanswer => ?_⟩
    obtain rfl := Option.some.inj (hreturned.answer.symm.trans hanswer)
    exact Cfr.classifies name verdict _ _
  · exact fun rounds verdict content hdecided => Execution.exists_returned hdecided content
  · refine fun t launcher cancelled d => ⟨fun result d' hlaunch => ?_, fun d' hlaunch hsome c => ?_⟩
    · obtain ⟨verdict, hverdict⟩ :=
        exists_verdict (some (result.status, result.millis)) cancelled (.inl rfl)
      exact explained hverdict (run_of_finished hlaunch hverdict)
    · obtain ⟨verdict, hverdict⟩ := exists_verdict none cancelled (.inr hsome)
      obtain rfl := cancelled_of_endless hverdict
      exact explained hverdict (run_of_stopped hlaunch)

def race (between : Bool) : List Execution.Event :=
  let seen : List Execution.Event :=
    if between then [.check, .cancel, .exit (.code 0), .look none]
    else [.cancel, .exit (.code 0), .check]
  [.flow .out (.write [65]), .look none] ++ seen ++
    [.flow .out .close, .flow .err .close, .flow .out (.read 1), .flow .out .finish,
      .flow .err .finish] ++ if between then [.act, .act] else [.act, .act, .act, .act]

def raced (between : Bool) : Option (Stand × Text.Bytes × Text.Bytes) :=
  (Execution.steps {} (race between)).map fun s =>
    (s.stand, (s.pipe .out).written, (s.pipe .err).written)

theorem first_decision_answers_of_race :
    (∃ s, Execution.steps {} (race true) = some s ∧
      s.answer? "a/B" = some (.ok ⟨.code 0, "A", ""⟩)) ∧
    ∃ s, Execution.steps {} (race false) = some s ∧
      s.answer? "a/B" = some (.error (.cancelled "a/B")) := by
  obtain ⟨-, hreturned, -⟩ := first_decision_answers "a/B"
  have hbetween : raced true = some (.closing (.exited (.code 0)) [], [65], []) := by decide
  have hwithin : raced false = some (.closing .cancelled [], [65], []) := by decide
  obtain ⟨s, hs, he⟩ := Option.map_eq_some_iff.mp hbetween
  obtain ⟨s', hs', he'⟩ := Option.map_eq_some_iff.mp hwithin
  simp only [Prod.mk.injEq] at he he'
  refine ⟨⟨s, hs, ?_⟩, s', hs', ?_⟩
  · rw [(hreturned s _ ⟨_, hs⟩ he.1).1.answer, he.2.1, he.2.2]
    decide +kernel
  · rw [(hreturned s' _ ⟨_, hs'⟩ he'.1).1.answer]
    rfl

end Java

end ClassBatch.Tool
