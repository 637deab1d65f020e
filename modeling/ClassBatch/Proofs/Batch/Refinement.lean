import ClassBatch.Proofs.Batch.Accounts
import ClassBatch.Proofs.Batch.Verdict

/-! A batch refines a plain map over its classes. If a backend answers by the class alone, a batch
that completes has the answers of the map, whatever the schedule, except where a class timed out. -/

namespace ClassBatch.Batch

/-- What a factory and its backends answer for each class. -/
structure Answers where
  fresh : Bool
  creation : String → Except DecompileError Unit
  reply : String → Reply

namespace Answers

def outcome (w : Answers) (name : String) : Outcome :=
  match w.fresh, w.creation name with
  | true, .error cause => .failure (Source.failureStub name) cause.message
  | _, _ =>
    match w.reply name with
    | .source text => .success (Source.unescape text)
    | .error cause => .failure (Source.failureStub name) cause.message
    | .panic payload =>
      .failure (Source.failureStub name)
        (DecompileError.panicked (payload.getD "unknown panic")).message

def Gives (w : Answers) : Action → Prop
  | .equip name creation => w.fresh = true → creation = match w.creation name with
    | .ok _ => .made
    | .error cause => .refused cause
  | .reply name reply => reply = w.reply name
  | _ => True

variable {w : Answers} {name : String}

lemma outcome_of_refused {cause : DecompileError} (hf : w.fresh = true)
    (hc : w.creation name = .error cause) : w.outcome name = failure name cause := by
  simp only [outcome, hf, hc]
  rfl

lemma outcome_of_reply (h : w.fresh = true → w.creation name = .ok ()) :
    w.outcome name = (w.reply name).outcome name := by
  have hreply : w.outcome name = match w.reply name with
      | .source text => .success (Source.unescape text)
      | .error cause => .failure (Source.failureStub name) cause.message
      | .panic payload => .failure (Source.failureStub name)
          (DecompileError.panicked (payload.getD "unknown panic")).message := by
    cases hf : w.fresh with
    | false => simp only [outcome, hf]
    | true => simp only [outcome, hf, h hf]
  rw [hreply]
  cases w.reply name <;> rfl

end Answers

def Attempt.offer? : Attempt → Option (Outcome × Duration)
  | .ready outcome duration | .holding outcome duration | .won outcome duration =>
    some (outcome, duration)
  | _ => none

def Work.Follows (w : Answers) (name : String) : Work → Prop
  | .equipped _ | .calling _ => w.fresh = true → w.creation name = .ok ()
  | .answered outcome => outcome = w.outcome name
  | .settling attempt =>
    ∀ outcome duration, attempt.offer? = some (outcome, duration) → outcome = w.outcome name
  | _ => True

def Expiry.Follows (name : String) (timeout : Duration) : Expiry → Prop
  | .settling attempt => ∀ outcome duration, attempt.offer? = some (outcome, duration) →
    outcome = expired name ∧ duration = timeout
  | _ => True

structure Task.Follows (t : Task) (w : Answers) (timeout : Duration) : Prop where
  work : t.work.Follows w t.name
  expiry : t.expiry.Follows t.name timeout

lemma Task.Follows.of_attempt? {t : Task} {w : Answers} {timeout : Duration} {side : Side}
    {attempt : Attempt} {outcome : Outcome} {duration : Duration} (h : t.Follows w timeout)
    (ha : t.attempt? side = some attempt) (hx : attempt.offer? = some (outcome, duration)) :
    (side = .worker → outcome = w.outcome t.name) ∧
      (side = .timer → outcome = expired t.name ∧ duration = timeout) := by
  obtain ⟨hwork, hexpiry⟩ := h
  cases side with
  | worker =>
    rw [Work.settling_of_attempt? ha] at hwork
    exact ⟨fun _ => hwork outcome duration hx, nofun⟩
  | timer =>
    rw [Expiry.settling_of_attempt? ha] at hexpiry
    exact ⟨nofun, fun _ => hexpiry outcome duration hx⟩

namespace System

variable {s s' s₁ : System} {t t' : Task} {action : Action} {w : Answers}
  {attempt attempt' : Attempt}

lemma AttemptRule.offer? {name : String} {panics : Bool} {x : Outcome × Duration}
    (h : AttemptRule s name panics attempt attempt' s') (hx : attempt'.offer? = some x) :
    attempt.offer? = some x := by
  cases h with
  | acquire _ _ _ | win _ _ _ => exact hx
  | _ => cases hx

lemma TaskRule.follows (h : TaskRule s t action t' s₁) (hf : t.Follows w s.config.timeout)
    (hfresh : s.fresh = w.fresh) (hg : w.Gives action) : t'.Follows w s.config.timeout := by
  obtain ⟨hwork, hexpiry⟩ := hf
  cases h with
  | schedule _ _ | cancel _ => exact ⟨hwork, trivial⟩
  | share creation _ hshared =>
    refine ⟨?_, hexpiry⟩
    intro hw
    rw [← hfresh, hshared] at hw
    cases hw
  | create _ hfr =>
    refine ⟨?_, hexpiry⟩
    intro hw
    have hmade := hg hw
    cases hc : w.creation t.name with
    | ok _ => rfl
    | error cause =>
      rw [hc] at hmade
      cases hmade
  | createRefused cause _ hfr =>
    refine ⟨?_, hexpiry⟩
    have hrefused := hg (hfresh ▸ hfr)
    cases hc : w.creation t.name with
    | ok _ =>
      rw [hc] at hrefused
      cases hrefused
    | error cause' =>
      rw [hc] at hrefused
      cases hrefused
      exact (Answers.outcome_of_refused (hfresh ▸ hfr) hc).symm
  | call backend hw =>
    rw [hw] at hwork
    exact ⟨hwork, hexpiry⟩
  | reply backend reply hw =>
    rw [hw] at hwork
    refine ⟨?_, hexpiry⟩
    change reply.outcome t.name = w.outcome t.name
    rw [Answers.outcome_of_reply hwork, show reply = w.reply t.name from hg]
  | time outcome duration hw =>
    rw [hw] at hwork
    refine ⟨?_, hexpiry⟩
    intro outcome' duration' hx
    cases hx
    exact hwork
  | fire _ _ _ =>
    refine ⟨hwork, ?_⟩
    intro outcome duration hx
    cases hx
    exact ⟨rfl, rfl⟩
  | advanceWorker hw ha =>
    rw [hw] at hwork
    exact ⟨fun outcome duration hx => hwork outcome duration (ha.offer? hx), hexpiry⟩
  | @advanceTimer _ _ attempt' _ he ha =>
    rw [he] at hexpiry
    cases attempt' with
    | «over» settled => cases settled <;> exact ⟨hwork, trivial⟩
    | _ => exact ⟨hwork, fun outcome duration hx => hexpiry outcome duration (ha.offer? hx)⟩
  | _ => exact ⟨trivial, hexpiry⟩

lemma AttemptRule.settings {name : String} {panics : Bool}
    (h : AttemptRule s name panics attempt attempt' s') :
    s'.config = s.config ∧ s'.fresh = s.fresh := by
  cases h with
  | tell _ =>
    rw [tell_eq]
    exact ⟨rfl, rfl⟩
  | _ => exact ⟨rfl, rfl⟩

lemma TaskRule.settings (h : TaskRule s t action t' s₁) :
    s₁.config = s.config ∧ s₁.fresh = s.fresh := by
  cases h with
  | advanceWorker _ ha | advanceTimer _ ha => exact ha.settings
  | _ => exact ⟨rfl, rfl⟩

lemma WatchRule.settings (h : WatchRule s action s') :
    s'.config = s.config ∧ s'.fresh = s.fresh := by
  cases h with
  | signalAbort _ _ =>
    rw [tell_eq]
    exact ⟨rfl, rfl⟩
  | sweepNext name names _ =>
    rw [cancelUnsettled_eq]
    exact ⟨rfl, rfl⟩
  | _ => exact ⟨rfl, rfl⟩

structure Follows (s : System) (w : Answers) (config : Config) : Prop where
  config_eq : s.config = config
  fresh_eq : s.fresh = w.fresh
  tasks : ∀ t ∈ s.tasks, t.Follows w config.timeout

variable {config : Config} {names : List String} {actions : List Action}

lemma Follows.step (h : s.Follows w config) (hg : w.Gives action)
    (hstep : s.step action = some s') : s'.Follows w config := by
  obtain ⟨rfl, hfresh, htasks⟩ := h
  rcases rule_of_step hstep with ⟨t, ht, t', s₁, hr, rfl⟩ | hr
  · obtain ⟨hc, hf⟩ := hr.settings
    refine ⟨hc, hf.trans hfresh, ?_⟩
    intro u hu
    rcases mem_setTask hu with rfl | hu
    · exact hr.follows (htasks t ht) hfresh hg
    · exact htasks u (hr.tasks ▸ hu)
  · obtain ⟨hc, hf⟩ := hr.settings
    refine ⟨hc, hf.trans hfresh, ?_⟩
    intro t ht
    obtain ⟨u, hu, cancelled, rfl⟩ := hr.mem_tasks ht
    exact ⟨(htasks u hu).work, (htasks u hu).expiry⟩

lemma Run.follows (h : Run (initial config w.fresh names) actions s)
    (hg : ∀ action ∈ actions, w.Gives action) : s.Follows w config := by
  induction h with
  | nil =>
    refine ⟨rfl, rfl, ?_⟩
    intro t ht
    obtain ⟨name, _, rfl⟩ := List.mem_map.mp ht
    exact ⟨trivial, trivial⟩
  | concat _ hstep ih =>
    obtain ⟨hg, hlast⟩ := List.forall_mem_append.mp hg
    exact (ih hg).step (hlast _ List.mem_cons_self) hstep

end System

def Answers.Explains (w : Answers) (timeout : Duration) (winners : List (Side × String))
    (e : Entry) : Prop :=
  (Side.worker, e.name) ∈ winners ∧ e.outcome = w.outcome e.name ∨
    (Side.timer, e.name) ∈ winners ∧ e.outcome = .timedOut (Source.timeoutStub e.name) ∧
      e.duration = timeout

lemma Answers.Explains.mono {w : Answers} {timeout : Duration}
    {winners later : List (Side × String)} {e : Entry} (h : w.Explains timeout winners e) :
    w.Explains timeout (winners ++ later) e :=
  h.imp (And.imp_left (List.mem_append_left later)) (And.imp_left (List.mem_append_left later))

namespace System

variable {s s' : System} {action : Action} {w : Answers} {config : Config} {names : List String}
  {actions : List Action} {e : Entry} {winners : List (Side × String)} {entries : List Entry}

lemma explains_entered (hf : s.Follows w config) (hh : s.History winners entries)
    (he : s.entered? action = some e) : w.Explains config.timeout winners e := by
  cases action with
  | advance side name panics =>
    cases ha : s.attempt? side name with
    | none => simp only [entered?, ha, reduceCtorEq] at he
    | some attempt =>
      cases attempt with
      | won outcome duration =>
        simp only [entered?, ha, Option.ite_none_right_eq_some, Option.some.injEq] at he
        obtain ⟨_, rfl⟩ := he
        have hwinner := hh.won side name outcome duration ha
        obtain ⟨t, ht, rfl, hwon⟩ := exists_task_of_attempt? ha
        obtain ⟨hworker, htimer⟩ := (hf.tasks t ht).of_attempt? hwon rfl
        cases side with
        | worker => exact Or.inl ⟨hwinner, hworker rfl⟩
        | timer => exact Or.inr ⟨hwinner, htimer rfl⟩
      | _ => simp only [entered?, ha, reduceCtorEq] at he
  | _ => cases he

lemma Run.explains (h : Run (initial config w.fresh names) actions s)
    (hg : ∀ action ∈ actions, w.Gives action) :
    ∀ e ∈ System.entries (initial config w.fresh names) actions,
      w.Explains config.timeout (System.winners (initial config w.fresh names) actions) e := by
  induction h with
  | nil => nofun
  | concat hrun hstep ih =>
    obtain ⟨hg, _⟩ := List.forall_mem_append.mp hg
    intro e he
    rw [System.entries, hrun.trace_concat, List.mem_append] at he
    rw [System.winners, hrun.trace_concat]
    apply Answers.Explains.mono
    rcases he with he | he
    · exact ih hg e he
    · exact explains_entered (hrun.follows hg) hrun.history (Option.mem_toList.mp he)

end System

lemma Ledger.report_elapsed (l : Ledger) (elapsed elapsed' : Duration) :
    { l.report elapsed with elapsedMillis := min elapsed'.toMillis maxWord } = l.report elapsed' := by
  rw [report_eq, report_eq]

/-- A run of a batch over some names that completes, when the backends answer by the class alone. -/
structure CompletedRun (w : Answers) (names : List String) where
  config : Config
  actions : List Action
  final : System
  ledger : Ledger
  steps : (System.initial config w.fresh names).steps actions = some final
  gives : ∀ action ∈ actions, w.Gives action
  completes : final.watch = .over (.completed ledger) ∨ ledger ∈ final.completions

namespace CompletedRun

variable {w : Answers} {names : List String}

def winners (r : CompletedRun w names) : List (Side × String) :=
  System.winners (System.initial r.config w.fresh names) r.actions

def entries (r : CompletedRun w names) : List Entry :=
  System.entries (System.initial r.config w.fresh names) r.actions

def Untimed (r : CompletedRun w names) : Prop :=
  ∀ name, (Side.timer, name) ∉ r.winners

variable (r : CompletedRun w names)

lemma ledger_complete : r.ledger.FilledBy (Names.sorted names).length r.entries ∧
    Names.keys r.ledger.results = Names.sorted names := by
  have hout : r.final.watch.ledger? = some r.ledger ∨ r.ledger ∈ r.final.completions := by
    refine r.completes.imp_left ?_
    intro hw
    rw [hw]
    rfl
  exact (System.run_of_steps r.steps).complete_of_handed hout

lemma results_of_untimed (h : r.Untimed) :
    r.ledger.results = (Names.sorted names).map fun name => (name, w.outcome name) := by
  obtain ⟨hfilled, hkeys⟩ := r.ledger_complete
  have hrun := System.run_of_steps r.steps
  rw [← hkeys, Names.keys, List.map_map]
  refine ((List.map_congr_left ?_).trans (List.map_id _)).symm
  rintro ⟨name, outcome⟩ hresult
  obtain ⟨e, he, rfl, rfl⟩ := hfilled.mem_results.mp hresult
  rcases hrun.explains r.gives e he with ⟨_, houtcome⟩ | ⟨htimer, _⟩
  · simp only [Function.comp_apply, id_eq, houtcome]
  · exact absurd htimer (h e.name)

lemma agree_of_results {r r' : CompletedRun w names} (h : r.ledger.results = r'.ledger.results) :
    r.ledger.failed = r'.ledger.failed ∧
      ∀ elapsed elapsed', r'.ledger.report elapsed' =
        { r.ledger.report elapsed with elapsedMillis := min elapsed'.toMillis maxWord } := by
  obtain ⟨hfilled, -⟩ := r.ledger_complete
  obtain ⟨hfilled', -⟩ := r'.ledger_complete
  refine ⟨?_, ?_⟩
  · rw [hfilled.failed, hfilled'.failed, h]
  · intro elapsed elapsed'
    have htotal := hfilled.total_eq.trans hfilled'.total_eq.symm
    rw [Ledger.report_elapsed r.ledger elapsed elapsed', Ledger.report, Ledger.report, h, htotal]

end CompletedRun

/-- A completed batch has one entry for each class: the class's own answer, or its timeout with the
configured duration. Without timeouts it has the results of the plain map, so that all such runs
agree. -/
theorem completed_run_refines_map (w : Answers) (names : List String)
    (r r' : CompletedRun w names) :
    Names.keys r.ledger.results = Names.sorted names ∧
    r.ledger.durations = r.entries.map Entry.duration ∧
    (∀ name ∈ names, ∃ e ∈ r.entries, e.name = name ∧ (name, e.outcome) ∈ r.ledger.results ∧
      ((Side.worker, name) ∈ r.winners ∧ e.outcome = w.outcome name ∨
        (Side.timer, name) ∈ r.winners ∧ e.outcome = .timedOut (Source.timeoutStub name) ∧
          e.duration = r.config.timeout)) ∧
    (r.Untimed →
      r.ledger.results = (Names.sorted names).map fun name => (name, w.outcome name)) ∧
    (r.Untimed → r'.Untimed → r.ledger.results = r'.ledger.results ∧
      r.ledger.failed = r'.ledger.failed ∧
      ∀ elapsed elapsed', r'.ledger.report elapsed' =
        { r.ledger.report elapsed with elapsedMillis := min elapsed'.toMillis maxWord }) := by
  obtain ⟨hfilled, hkeys⟩ := r.ledger_complete
  have hrun := System.run_of_steps r.steps
  refine ⟨hkeys, hfilled.durations, ?_, r.results_of_untimed, ?_⟩
  · intro name hn
    have hk : name ∈ Names.keys r.ledger.results := hkeys ▸ Names.mem_sorted.mpr hn
    obtain ⟨outcome, hresult⟩ := Names.mem_keys.mp hk
    obtain ⟨e, he, rfl, rfl⟩ := hfilled.mem_results.mp hresult
    exact ⟨e, he, rfl, hresult, hrun.explains r.gives e he⟩
  · intro hu hu'
    have hresults := (r.results_of_untimed hu).trans (r'.results_of_untimed hu').symm
    exact ⟨hresults, CompletedRun.agree_of_results hresults⟩

def mixed : Answers :=
  ⟨false, fun _ => .ok (), fun name => if name = "a/A" then .source "class A {}" else .panic none⟩

namespace CompletedRun

def beginning : List Action :=
  [.submit "a/A", .schedule "a/A", .submit "b/B", .schedule "b/B", .launch]

def answering (name : String) : List Action :=
  [.take name, .check name, .equip name .made, .call name, .reply name (mixed.reply name),
    .time name (Duration.ofSeconds 1)]

def settling (name : String) : List Action :=
  List.replicate 7 (.advance .worker name false)

def ending : List Action :=
  [.lock, .testAbort, .testComplete, .sweep, .sweep, .sweep, .close, .complete false]

def oneByOne : List Action :=
  beginning ++ (answering "a/A" ++ settling "a/A") ++ (answering "b/B" ++ settling "b/B") ++ ending

def overtaking : List Action :=
  beginning ++ answering "a/A" ++ answering "b/B" ++ settling "b/B" ++ (settling "a/A").take 3 ++ ending

lemma gives_answering (name : String) : ∀ a ∈ answering name, mixed.Gives a := by
  simp [answering, Answers.Gives, mixed]

lemma gives_settling (name : String) : ∀ a ∈ settling name, mixed.Gives a := by
  intro a ha
  rw [List.eq_of_mem_replicate ha]
  trivial

lemma gives_beginning : ∀ a ∈ beginning, mixed.Gives a := by
  simp [beginning, Answers.Gives]

lemma gives_ending : ∀ a ∈ ending, mixed.Gives a := by
  simp [ending, Answers.Gives]

def prompt : CompletedRun mixed ["a/A", "b/B"] where
  config := ⟨1, Duration.ofSeconds 5⟩
  actions := oneByOne
  final := ((System.initial ⟨1, Duration.ofSeconds 5⟩ false ["a/A", "b/B"]).steps oneByOne).get
    (by decide)
  ledger := ((Ledger.empty 2).enter "a/A" (mixed.outcome "a/A") (Duration.ofSeconds 1)).enter "b/B"
    (mixed.outcome "b/B") (Duration.ofSeconds 1)
  steps := (Option.some_get _).symm
  gives := by
    simp only [oneByOne, List.forall_mem_append]
    exact ⟨⟨⟨gives_beginning, gives_answering _, gives_settling _⟩, gives_answering _,
      gives_settling _⟩, gives_ending⟩
  completes := Or.inl (by decide)

def hasty : CompletedRun mixed ["a/A", "b/B"] where
  config := Config.default
  actions := overtaking
  final := ((System.initial Config.default false ["a/A", "b/B"]).steps overtaking).get (by decide)
  ledger := ((Ledger.empty 2).enter "b/B" (mixed.outcome "b/B") (Duration.ofSeconds 1)).enter "a/A"
    (mixed.outcome "a/A") (Duration.ofSeconds 1)
  steps := (Option.some_get _).symm
  gives := by
    simp only [overtaking, List.forall_mem_append]
    exact ⟨⟨⟨⟨⟨gives_beginning, gives_answering _⟩, gives_answering _⟩, gives_settling _⟩,
      fun a ha => gives_settling _ a (List.mem_of_mem_take ha)⟩, gives_ending⟩
  completes := Or.inl (by decide)

end CompletedRun

theorem completed_runs_agree :
    CompletedRun.prompt.winners = [(.worker, "a/A"), (.worker, "b/B")] ∧
    CompletedRun.hasty.winners = [(.worker, "b/B"), (.worker, "a/A")] ∧
    CompletedRun.prompt.Untimed ∧ CompletedRun.hasty.Untimed ∧
    CompletedRun.prompt.ledger.results =
      [("a/A", mixed.outcome "a/A"), ("b/B", mixed.outcome "b/B")] ∧
    CompletedRun.prompt.ledger.results = CompletedRun.hasty.ledger.results ∧
    CompletedRun.hasty.ledger.failed = ["b/B"] := by
  have hprompt : CompletedRun.prompt.winners = [(.worker, "a/A"), (.worker, "b/B")] := by decide
  have hhasty : CompletedRun.hasty.winners = [(.worker, "b/B"), (.worker, "a/A")] := by decide
  have huntimed : CompletedRun.prompt.Untimed := by
    intro name hn
    rw [hprompt] at hn
    simp at hn
  have huntimed' : CompletedRun.hasty.Untimed := by
    intro name hn
    rw [hhasty] at hn
    simp at hn
  obtain ⟨_, _, _, hmap, hagree⟩ :=
    completed_run_refines_map mixed ["a/A", "b/B"] CompletedRun.prompt CompletedRun.hasty
  exact ⟨hprompt, hhasty, huntimed, huntimed', hmap huntimed, (hagree huntimed huntimed').1, by decide⟩

end ClassBatch.Batch
