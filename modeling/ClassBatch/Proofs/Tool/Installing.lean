import ClassBatch.Proofs.Files.Subtrees
import ClassBatch.Proofs.Files.Writes
import ClassBatch.Proofs.Tool.Sparing

/-! CFR is looked for again and again, and downloaded while it is missing. That it is in its place
is all that tells a download that succeeded, so one that fails has to leave nothing there. -/

namespace ClassBatch

namespace Tool

open CommandLine Files Files.Disk Files.Path
open Text (Bytes)

def WritesTarget (launcher : Launcher) (target : String) : Prop :=
  ∀ d result d', launcher (Toolchain.curlRequest target) d = .finished result d' →
    d' = d ∨ ∃ content, d.write target content = .ok d'

namespace Toolchain

structure Call where
  launcher : Launcher
  before : Disk
  result : Except ToolError String
  after : Disk

def call (tools : ToolPaths) (env : Environment) (launcher : Launcher) (d : Disk) : Call :=
  let (result, t) := cfrPath launcher tools env { disk := d }
  { launcher, before := d, result, after := t.disk }

def calls (tools : ToolPaths) (env : Environment) : List Launcher → Disk → List Call
  | [], _ => []
  | launcher :: launchers, d =>
    let first := call tools env launcher d
    first :: calls tools env launchers first.after

def download? (launcher : Launcher) (target : String) (d : Disk) : Option Launch :=
  let made := d.createDirs ((parent? target).getD "")
  if made.1.isNone then some (launcher (curlRequest target) made.2) else none

def Call.curl? (env : Environment) (c : Call) : Option Launch :=
  if c.before.has (defaultCfr env) then none else download? c.launcher (defaultCfr env) c.before

def Call.Fetches (env : Environment) (c : Call) : Prop :=
  ∃ result d, c.curl? env = some (.finished result d) ∧ result.status.isSuccess = true

def cfrPlace (env : Environment) (here : List String) : List String :=
  land here (components (defaultCfr env).toList)

/-- Nothing is in the place of CFR, and the way to its directory does not lead through that place.
-/
structure Missing (env : Environment) (d : Disk) : Prop where
  nothing : d.tree.look (cfrPlace env d.here) = none
  aside : cfrPlace env d.here ∉ trail d.here (components (toolsDir env).toList)

variable {tools : ToolPaths} {env : Environment} {launcher : Launcher} {launchers : List Launcher}
  {d d' : Disk} {c : Call} {earlier later : List Call} {content : Bytes}

lemma cfrPlace_eq (env : Environment) (here : List String) :
    cfrPlace env here = land here (components (toolsDir env).toList) ++ ["cfr.jar"] := by
  rw [cfrPlace, components_defaultCfr, land_append, ← List.map_singleton, Fernflower.land_named]

lemma aside_of_no_parent (h : .parent ∉ components (toolsDir env).toList) (here : List String) :
    cfrPlace env here ∉ trail here (components (toolsDir env).toList) := by
  intro htrail
  have hprefix := prefix_land_of_mem_trail h htrail
  rw [cfrPlace_eq] at hprefix
  have hlength := hprefix.length_le
  simp at hlength

lemma parent_defaultCfr_ne_empty (env : Environment) :
    (parent? (defaultCfr env)).getD "" ≠ "" := by
  have hplain : Plain "tools" := by decide
  have hnames : names "tools" = ["tools"] := by decide
  have hcomponents := components_parent_defaultCfr env
  rw [toolsDir, components_join _ hplain, hnames, List.map_singleton] at hcomponents
  have hnil : components "".toList = [] := rfl
  intro he
  rw [he, hnil] at hcomponents
  simp at hcomponents

namespace Missing

lemma has_eq_false (h : Missing env d) : d.has (defaultCfr env) = false :=
  Disk.has_eq_false h.nothing

lemma of_keeps (h : Missing env d) (hkeeps : Keeps (cfrPlace env d.here) d d') :
    Missing env d' := by
  constructor
  · rw [hkeeps.here, hkeeps.look, h.nothing]
  · rw [hkeeps.here]
    exact h.aside

lemma createDirs_keeps (h : Missing env d) : Keeps (cfrPlace env d.here) d
    (d.createDirs ((parent? (defaultCfr env)).getD "")).2 := by
  refine Disk.createDirs_keeps fun htrail => absurd ?_ h.aside
  rwa [components_parent_defaultCfr] at htrail

lemma of_createDirs (h : Missing env d) {fault : Option FileError}
    (hdirs : d.createDirs ((parent? (defaultCfr env)).getD "") = (fault, d')) : Missing env d' := by
  have hkeeps := h.createDirs_keeps
  rw [hdirs] at hkeeps
  exact h.of_keeps hkeeps

lemma look_toolsDir (h : Missing env d)
    (hdirs : d.createDirs ((parent? (defaultCfr env)).getD "") = (none, d')) :
    d'.tree.look (land d'.here (components (toolsDir env).toList)) = some .dir := by
  have hhere := h.createDirs_keeps.here
  rw [hdirs] at hhere
  rw [hhere]
  rcases @createDirs_cases d _ (parent_defaultCfr_ne_empty env) with he | he
  · rw [hdirs] at he
    cases he
  · rw [hdirs, components_parent_defaultCfr] at he
    have hdir := @createAlong_none d d.here (components (toolsDir env).toList) (by rw [← he])
    rw [← he] at hdir
    exact hdir.2

lemma of_removeFile (haside : cfrPlace env d.here ∉ trail d.here (components (toolsDir env).toList))
    (hdir : d.tree.look (land d.here (components (toolsDir env).toList)) = some .dir)
    (hremove : d.removeFile (defaultCfr env) = .ok d') : Missing env d' := by
  obtain ⟨tree, htree, rfl⟩ := change_eq_ok hremove
  refine ⟨?_, haside⟩
  change Tree.removeFile d.tree (cfrPlace env d.here) = .ok tree at htree
  change tree.look (cfrPlace env d.here) = none
  rw [cfrPlace_eq] at htree ⊢
  rw [Tree.look_removeFile hdir htree, if_pos (List.prefix_refl _)]

lemma of_write (h : Missing env d)
    (hdir : d.tree.look (land d.here (components (toolsDir env).toList)) = some .dir)
    (hwrite : d.write (defaultCfr env) content = .ok d') :
    d'.has (defaultCfr env) = true ∧
      ∃ d'', d'.removeFile (defaultCfr env) = .ok d'' ∧ Missing env d'' := by
  have hfits : ∀ other ∈ land d.here (components (toolsDir env).toList), Node.fits other = true :=
    Node.fits_of_look (by rw [← Tree.look, hdir]; simp)
  obtain ⟨place, hplace⟩ := exists_locate_of_write hwrite
  obtain rfl : cfrPlace env d.here = place := (locate_eq_ok hplace).2.symm
  have hnothing := h.nothing
  rw [cfrPlace_eq] at hplace hnothing
  obtain ⟨hname, hplace', hlook⟩ := look_of_write hplace (by rwa [List.dropLast_concat]) hwrite
  obtain ⟨tree, htree, rfl⟩ := write_eq_ok hwrite
  rw [← (locate_eq_ok hplace).2] at htree
  have hcfr : Node.fits "cfr.jar" = true := by decide
  obtain ⟨tree', hremove⟩ := Tree.exists_removeFile_of_write hdir hcfr hnothing htree
  have hremoved : Disk.removeFile { d with tree } (defaultCfr env) = .ok { d with tree := tree' } := by
    rw [removeFile, change, hplace', hname]
    simp only [bind, Except.bind, Bool.false_eq_true, if_false, hremove, pure, Except.pure]
  have hdir' : tree.look (land d.here (components (toolsDir env).toList)) = some .dir := by
    rw [hlook, if_neg (by simp), hdir]
  have hmissing := of_removeFile (d := { d with tree }) h.aside hdir' hremoved
  exact ⟨has_of_write hplace hfits hwrite, _, hremoved, hmissing⟩

end Missing

inductive Attempts (launcher : Launcher) (target : String) (d : Disk) :
    Except ToolError Unit → Disk → Option Launch → Prop
  | blocked {fault : FileError} {d₁ : Disk}
      (hdirs : d.createDirs ((parent? target).getD "") = (some fault, d₁)) :
      Attempts launcher target d (.error (.noDirectory ((parent? target).getD ""))) d₁ none
  | unable {d₁ : Disk} {launch : Launch}
      (hdirs : d.createDirs ((parent? target).getD "") = (none, d₁))
      (hlaunch : launcher (curlRequest target) d₁ = launch)
      (hunable : ∀ result d₂, launch ≠ .finished result d₂) :
      Attempts launcher target d (.error .noCurl) d₁ (some launch)
  | failed {d₁ d₂ : Disk} {result : Finished}
      (hdirs : d.createDirs ((parent? target).getD "") = (none, d₁))
      (hlaunch : launcher (curlRequest target) d₁ = .finished result d₂)
      (hstatus : result.status.isSuccess = false) :
      Attempts launcher target d (.error (.noDownload result.status))
        ((d₂.removeFile target).toOption.getD d₂) (some (.finished result d₂))
  | downloaded {d₁ d₂ : Disk} {result : Finished}
      (hdirs : d.createDirs ((parent? target).getD "") = (none, d₁))
      (hlaunch : launcher (curlRequest target) d₁ = .finished result d₂)
      (hstatus : result.status.isSuccess = true) :
      Attempts launcher target d (.ok ()) d₂ (some (.finished result d₂))

lemma Attempts.tries {target : String} {result : Except ToolError Unit} {curl : Option Launch}
    (h : Attempts launcher target d result d' curl) :
    curl ≠ none ∨ result = .error (.noDirectory ((parent? target).getD "")) := by
  cases h with
  | blocked => exact Or.inr rfl
  | _ => exact Or.inl (by simp)

lemma attempts_install (launcher : Launcher) (target : String) (t : Traces) :
    Attempts launcher target t.disk (install launcher target t).1 (install launcher target t).2.disk
      (download? launcher target t.disk) := by
  rw [install, download?]
  rcases hdirs : t.disk.createDirs ((parent? target).getD "") with ⟨_ | fault, d₁⟩
  · dsimp only [Traces.notice]
    cases hlaunch : launcher (curlRequest target) d₁ with
    | refused cause => exact .unable hdirs hlaunch (by simp)
    | stopped d₂ => exact .unable hdirs hlaunch (by simp)
    | finished result d₂ =>
      dsimp only
      cases hstatus : result.status.isSuccess with
      | false => exact .failed hdirs hlaunch hstatus
      | true => exact .downloaded hdirs hlaunch hstatus
  · exact .blocked hdirs

lemma Missing.of_attempts {result : Except ToolError Unit} {curl : Option Launch}
    (hwrites : WritesTarget launcher (defaultCfr env)) (h : Missing env d)
    (hattempts : Attempts launcher (defaultCfr env) d result d' curl) :
    (∃ e, result = .error e ∧ Missing env d') ∨
    result = .ok () ∧ (∃ finished d₂, curl = some (.finished finished d₂) ∧
      finished.status.isSuccess = true) ∧ (Missing env d' ∨ d'.has (defaultCfr env) = true) := by
  cases hattempts with
  | blocked hdirs => exact Or.inl ⟨_, rfl, h.of_createDirs hdirs⟩
  | unable hdirs hlaunch hunable => exact Or.inl ⟨_, rfl, h.of_createDirs hdirs⟩
  | @failed d₁ d₂ finished hdirs hlaunch hstatus =>
    have hmissing := h.of_createDirs hdirs
    have hdir := h.look_toolsDir hdirs
    refine Or.inl ⟨_, rfl, ?_⟩
    rcases hwrites d₁ finished d₂ hlaunch with rfl | ⟨content, hwrite⟩
    · cases hremove : d₂.removeFile (defaultCfr env) with
      | error e => exact hmissing
      | ok d₃ => exact of_removeFile hmissing.aside hdir hremove
    · -- there is a file to remove, so the removal does not fail
      obtain ⟨-, d₃, hremove, hgone⟩ := hmissing.of_write hdir hwrite
      rw [hremove]
      exact hgone
  | @downloaded d₁ _ finished hdirs hlaunch hstatus =>
    refine Or.inr ⟨rfl, ⟨_, _, rfl, hstatus⟩, ?_⟩
    rcases hwrites d₁ finished d' hlaunch with rfl | ⟨content, hwrite⟩
    · exact Or.inl (h.of_createDirs hdirs)
    · exact Or.inr ((h.of_createDirs hdirs).of_write (h.look_toolsDir hdirs) hwrite).1

section Call

variable (hpath : tools.cfr.or (env.lookup "CFR_JAR") = none)

include hpath

lemma call_of_has (launcher : Launcher) (h : d.has (defaultCfr env) = true) :
    call tools env launcher d = ⟨launcher, d, .ok (defaultCfr env), d⟩ := by
  simp only [call, cfrPath, hpath, h, if_true]

lemma call_of_not_has (launcher : Launcher) (h : d.has (defaultCfr env) = false) :
    call tools env launcher d =
      ⟨launcher, d, (install launcher (defaultCfr env) { disk := d }).1.map fun _ => defaultCfr env,
        (install launcher (defaultCfr env) { disk := d }).2.disk⟩ := by
  simp only [call, cfrPath, hpath, h, Bool.false_eq_true, if_false]

/-- CFR is missing, or it is in its place and an earlier download brought it. -/
def Accounted (env : Environment) (earlier : List Call) (d : Disk) : Prop :=
  Missing env d ∨ d.has (defaultCfr env) = true ∧ ∃ c ∈ earlier, c.Fetches env

lemma Missing.cases_call (hwrites : WritesTarget launcher (defaultCfr env)) (h : Missing env d) :
    (∃ e, (call tools env launcher d).result = .error e ∧
      Missing env (call tools env launcher d).after) ∨
    (call tools env launcher d).result = .ok (defaultCfr env) ∧
      (call tools env launcher d).Fetches env ∧
      (Missing env (call tools env launcher d).after ∨
        (call tools env launcher d).after.has (defaultCfr env) = true) := by
  have hattempts := attempts_install launcher (defaultCfr env) { disk := d }
  have hcall := call_of_not_has hpath launcher h.has_eq_false
  have hcurl : (call tools env launcher d).curl? env = download? launcher (defaultCfr env) d := by
    simp only [hcall, Call.curl?, h.has_eq_false, Bool.false_eq_true, if_false]
  rw [Call.Fetches, hcurl, hcall]
  dsimp only at hattempts ⊢
  rcases h.of_attempts hwrites hattempts with ⟨e, hresult, hmissing⟩ | ⟨hresult, hcurl, hafter⟩
  · exact Or.inl ⟨e, by rw [hresult]; rfl, hmissing⟩
  · exact Or.inr ⟨by rw [hresult]; rfl, hcurl, hafter⟩

lemma Accounted.step (hwrites : WritesTarget launcher (defaultCfr env))
    (h : Accounted env earlier d) :
    Accounted env (earlier ++ [call tools env launcher d])
      (call tools env launcher d).after := by
  rcases h with hmissing | ⟨hhas, other, hother, hfetches⟩
  · rcases hmissing.cases_call hpath hwrites with ⟨e, -, hmissing⟩ | ⟨-, hfetches, hafter⟩
    · exact Or.inl hmissing
    · exact hafter.imp_right fun hhas => ⟨hhas, _, List.mem_concat_self, hfetches⟩
  · rw [call_of_has hpath launcher hhas]
    exact Or.inr ⟨hhas, other, List.mem_append_left _ hother, hfetches⟩

lemma accounted_of_calls (hwrites : ∀ launcher ∈ launchers, WritesTarget launcher (defaultCfr env))
    {past : List Call} (h : Accounted env past d)
    (hcalls : calls tools env launchers d = earlier ++ c :: later) :
    ∃ launcher ∈ launchers, ∃ d', c = call tools env launcher d' ∧
      Accounted env (past ++ earlier) d' := by
  -- what the first of the searches did goes over to those that are past
  induction launchers generalizing d past earlier with
  | nil => simp [calls] at hcalls
  | cons launcher launchers ih =>
    obtain ⟨hlauncher, hlaunchers⟩ := List.forall_mem_cons.mp hwrites
    rw [calls] at hcalls
    cases earlier with
    | nil =>
      obtain ⟨rfl, -⟩ := List.cons.inj hcalls
      exact ⟨launcher, List.mem_cons_self, d, rfl, by rwa [List.append_nil]⟩
    | cons first earlier =>
      obtain ⟨rfl, hrest⟩ := List.cons.inj hcalls
      obtain ⟨next, hnext, d', hc, haccounted⟩ := ih hlaunchers (h.step hpath hlauncher) hrest
      refine ⟨next, List.mem_cons_of_mem _ hnext, d', hc, ?_⟩
      rwa [List.append_cons]

lemma Missing.tries (launcher : Launcher) (h : Missing env d) :
    (call tools env launcher d).curl? env ≠ none ∨
      (call tools env launcher d).result =
        .error (.noDirectory ((parent? (defaultCfr env)).getD "")) := by
  simp only [call_of_not_has hpath launcher h.has_eq_false, Call.curl?, h.has_eq_false,
    Bool.false_eq_true, if_false]
  rcases (attempts_install launcher (defaultCfr env) { disk := d }).tries with hcurl | hresult
  · exact Or.inl hcurl
  · rw [hresult]
    exact Or.inr rfl

end Call

/-- Searches for CFR one after the other, on a disk where it is missing, whatever comes of curl in
each of them: after one that fails nothing is there, so the next one tries the download again, and
one that finds CFR without a download does so only after one that succeeded. -/
theorem failed_download_leaves_nothing (hpath : tools.cfr.or (env.lookup "CFR_JAR") = none)
    (hmissing : Missing env d)
    (hwrites : ∀ launcher ∈ launchers, WritesTarget launcher (defaultCfr env))
    (hcalls : calls tools env launchers d = earlier ++ c :: later) :
    (∀ e, c.result = .error e → c.after.has (defaultCfr env) = false ∧
      ∀ launcher, (call tools env launcher c.after).curl? env ≠ none ∨
        (call tools env launcher c.after).result =
          .error (.noDirectory ((parent? (defaultCfr env)).getD ""))) ∧
    ∀ path, c.result = .ok path → path = defaultCfr env ∧
      (c.curl? env = none → ∃ other ∈ earlier, other.Fetches env) := by
  have hstart : Accounted env [] d := Or.inl hmissing
  obtain ⟨launcher, hlauncher, d', rfl, haccounted⟩ :=
    accounted_of_calls hpath hwrites hstart hcalls
  rcases haccounted with hmissing | ⟨hhas, other, hother, hfetches⟩
  · rcases hmissing.cases_call hpath (hwrites launcher hlauncher) with
      ⟨e, hresult, hafter⟩ | ⟨hresult, hfetches, -⟩
    · refine ⟨fun _ _ => ⟨hafter.has_eq_false, fun next => hafter.tries hpath next⟩, ?_⟩
      intro path hok
      rw [hresult] at hok
      cases hok
    · obtain ⟨finished, d₂, hcurl, -⟩ := hfetches
      constructor
      · intro e herror
        rw [hresult] at herror
        cases herror
      · intro path hok
        rw [hresult] at hok
        refine ⟨(Except.ok.inj hok).symm, fun hnone => ?_⟩
        rw [hnone] at hcurl
        cases hcurl
  · rw [call_of_has hpath launcher hhas]
    constructor
    · intro e herror
      cases herror
    · intro path hok
      exact ⟨(Except.ok.inj hok).symm, fun _ => ⟨other, hother, hfetches⟩⟩

def absentCurl : Launcher :=
  fun _ _ => .refused .notFound

def curl (written : Option Bytes) (status : ExitStatus) : Launcher :=
  fun request d =>
    let target := request.arguments.getD 5 ""
    .finished ⟨status, [], [], 0⟩
      ((written.bind fun content => (d.write target content).toOption).getD d)

lemma absentCurl_writes (target : String) : WritesTarget absentCurl target :=
  fun _ _ _ h => by cases h

lemma not_fetches_absentCurl : ¬ (call tools env absentCurl d).Fetches env := by
  rintro ⟨result, d', hcurl, -⟩
  rw [Call.curl?] at hcurl
  split at hcurl
  · cases hcurl
  · rw [download?] at hcurl
    split at hcurl <;> cases hcurl

lemma curl_writes (written : Option Bytes) (status : ExitStatus) (target : String) :
    WritesTarget (curl written status) target := by
  intro d result d' h
  injection h with _ h
  cases written with
  | none => exact Or.inl h.symm
  | some content =>
    cases hwrite : d.write target content with
    | error e =>
      left
      rw [← h]
      simp [curlRequest, hwrite, Except.toOption]
    | ok d₁ =>
      refine Or.inr ⟨content, ?_⟩
      rw [hwrite, ← h]
      simp [curlRequest, hwrite, Except.toOption]

def unlucky : List Launcher :=
  [absentCurl, curl (some [80, 75]) (.code 22), curl none (.code 0),
    curl (some [80, 75, 3, 4]) (.code 0), absentCurl]

def bare : Environment where
  accountHome := "/root"

theorem failed_download_leaves_nothing_after_unlucky :
    Missing bare { tree := .empty } ∧
    (∀ launcher ∈ unlucky, WritesTarget launcher (defaultCfr bare)) ∧
    ∃ c₁ c₂ c₃ c₄ c₅, calls {} bare unlucky { tree := .empty } = [c₁, c₂, c₃, c₄, c₅] ∧
      c₂.result = .error (.noDownload (.code 22)) ∧ c₂.after.has (defaultCfr bare) = false ∧
      c₅.result = .ok (defaultCfr bare) ∧ c₅.curl? bare = none ∧
      ∃ other ∈ [c₁, c₂, c₃, c₄], other.Fetches bare := by
  have hmissing : Missing bare { tree := .empty } :=
    ⟨by decide +kernel, aside_of_no_parent (by decide +kernel) []⟩
  have hwrites : ∀ launcher ∈ unlucky, WritesTarget launcher (defaultCfr bare) := by
    simp only [unlucky, List.forall_mem_cons, List.not_mem_nil, false_implies, implies_true,
      and_true]
    exact ⟨absentCurl_writes _, curl_writes _ _ _, curl_writes _ _ _, curl_writes _ _ _,
      absentCurl_writes _⟩
  obtain ⟨c₁, c₂, c₃, c₄, c₅, hcalls, hfails, hfinds, hcurl⟩ : ∃ c₁ c₂ c₃ c₄ c₅,
      calls {} bare unlucky { tree := .empty } = [c₁, c₂, c₃, c₄, c₅] ∧
      c₂.result = .error (.noDownload (.code 22)) ∧ c₅.result = .ok (defaultCfr bare) ∧
      (c₅.curl? bare).isNone = true :=
    ⟨_, _, _, _, _, rfl, by decide +kernel⟩
  have hsecond : calls {} bare unlucky { tree := .empty } = [c₁] ++ c₂ :: [c₃, c₄, c₅] := hcalls
  have hlast : calls {} bare unlucky { tree := .empty } = [c₁, c₂, c₃, c₄] ++ c₅ :: [] := hcalls
  obtain ⟨hgone, -⟩ :=
    (failed_download_leaves_nothing rfl hmissing hwrites hsecond).1 _ hfails
  obtain ⟨-, hearlier⟩ :=
    (failed_download_leaves_nothing rfl hmissing hwrites hlast).2 _ hfinds
  have hnone := Option.isNone_iff_eq_none.mp hcurl
  exact ⟨hmissing, hwrites, c₁, c₂, c₃, c₄, c₅, hcalls, hfails, hgone, hfinds, hnone,
    hearlier hnone⟩

def winding : Environment :=
  ⟨[("XDG_DATA_HOME", "/batch-decompile/tools/cfr.jar/../../..")], "/root"⟩

/-- On the way to the directory of CFR another one is made in the place of CFR, and the next search
takes it for a download although none succeeded. -/
theorem directory_taken_for_download :
    (Tree.empty).look (cfrPlace winding []) = none ∧ WritesTarget absentCurl (defaultCfr winding) ∧
    ∃ c₁ c₂, calls {} winding [absentCurl, absentCurl] { tree := .empty } = [c₁, c₂] ∧
      c₁.result = .error .noCurl ∧ c₁.after.has (defaultCfr winding) = true ∧
      c₂.result = .ok (defaultCfr winding) ∧ c₂.curl? winding = none ∧
      ¬ ∃ other ∈ [c₁], other.Fetches winding := by
  obtain ⟨c₁, c₂, hcalls, ⟨hfails, htaken, hfinds, hcurl⟩, hnot⟩ : ∃ c₁ c₂,
      calls {} winding [absentCurl, absentCurl] { tree := .empty } = [c₁, c₂] ∧
      (c₁.result = .error .noCurl ∧ c₁.after.has (defaultCfr winding) = true ∧
        c₂.result = .ok (defaultCfr winding) ∧ (c₂.curl? winding).isNone = true) ∧
      ¬ c₁.Fetches winding :=
    ⟨_, _, rfl, by decide +kernel, not_fetches_absentCurl⟩
  refine ⟨by decide +kernel, absentCurl_writes _, c₁, c₂, hcalls, hfails, htaken, hfinds,
    Option.isNone_iff_eq_none.mp hcurl, ?_⟩
  rintro ⟨other, hother, hfetches⟩
  rw [List.mem_singleton.mp hother] at hfetches
  exact hnot hfetches

end Toolchain

end Tool

end ClassBatch
