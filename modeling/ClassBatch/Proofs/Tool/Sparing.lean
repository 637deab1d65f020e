import ClassBatch.Proofs.Batch.Courses
import ClassBatch.Proofs.Files.Keeping
import ClassBatch.Proofs.Tool.Scratch
import ClassBatch.Tool.Factory

/-! What the tools leave alone. Besides the programs that they run, they change a disk at paths of
their own only: where CFR is downloaded to, and where the instances of Fernflower keep their files.
-/

namespace ClassBatch.Tool

open CommandLine Files Files.Disk Files.Path
open Text (Bytes)

def Launch.disk? : Launch → Option Disk
  | .refused _ => none
  | .finished _ d => some d
  | .stopped d => some d

/-- No program that is run touches what stands at a place. -/
def Spares (launcher : Launcher) (place : List String) : Prop :=
  ∀ request d d', (launcher request d).disk? = some d' → Keeps place d d'

variable {launcher : Launcher} {place : List String} {d d' : Disk} {path inner : String}
  {below : List String}

lemma Java.run_keeps (hspares : Spares launcher place) (program : String) (arguments : List String)
    (cancelled : Option Nat) (label : String) (d : Disk) :
    Keeps place d (Java.run launcher program arguments cancelled label d).2 := by
  rw [Java.run]
  cases hlaunch : launcher ⟨program, arguments, cancelled.map fun c => interval * roundAt c⟩ d with
  | refused cause => exact Keeps.refl place d
  | stopped d' => exact hspares _ d d' (by rw [hlaunch]; rfl)
  | finished result d' =>
    have hkeeps : Keeps place d d' := hspares _ d d' (by rw [hlaunch]; rfl)
    dsimp only
    split <;> exact hkeeps

lemma createDirs_keeps_of_not_takes (h : ¬ d.Takes path place) :
    Keeps place d (d.createDirs path).2 :=
  createDirs_keeps fun htrail hnone => h (Or.inr ⟨htrail, hnone⟩)

lemma takes_of_within (hinner : components inner.toList = components path.toList ++ below.map named)
    (h : d.Takes inner place) : d.Takes path place := by
  rw [Takes, hinner, land_append, Fernflower.land_named, trail_append, List.mem_append] at h
  rcases h with hland | ⟨htrail | htrail, hnone⟩
  · exact Or.inl ((List.prefix_append _ _).trans hland)
  · exact Or.inr ⟨htrail, hnone⟩
  · have hbelow := Fernflower.treads_named (p := (land d.here (components path.toList) <+: ·))
      (land d.here (components path.toList)) below fun first _ _ _ => List.prefix_append _ first
    exact Or.inl (treads_iff.mp hbelow place htrail)

namespace Fernflower

variable {t : Fernflower} {name : String} {member : String × Bytes}
  {members : List (String × Bytes)}

lemma resetDir_keeps (h : ¬ d.Takes path place) : Keeps place d (resetDir path d).2 := by
  have hremove : Keeps place d (d.removeDir path).2 := removeDir_keeps fun hp => h (Or.inl hp)
  have hcreate := hremove.trans (createDirs_keeps_of_not_takes (mt hremove.takes_iff.mp h))
  rw [resetDir]
  rcases hr : d.removeDir path with ⟨_ | e, d₁⟩ <;> rw [hr] at hremove hcreate
  · dsimp only at hcreate ⊢
    rcases hdirs : d₁.createDirs path with ⟨_ | e, d₂⟩ <;> rw [hdirs] at hcreate <;> exact hcreate
  · cases e with
    | notFound =>
      dsimp only at hcreate ⊢
      rcases hdirs : d₁.createDirs path with ⟨_ | e, d₂⟩ <;> rw [hdirs] at hcreate <;> exact hcreate
    | _ => exact hremove

lemma writeMember_keeps (hcontained : Catalog.isContained member.1 = true)
    (h : ¬ d.Takes t.scratch place) : Keeps place d (writeMember t.input member d).2 := by
  have hplain := Catalog.plain_of_isContained hcontained
  have hparent : components ((parent? (join t.input member.1)).getD "").toList =
      components t.scratch.toList ++ ("in" :: (names member.1).dropLast).map named := by
    rw [components_parent_join (input_getLast? t) (by decide) (by decide) hplain, components_in,
      List.append_assoc]
    rfl
  have htarget : components (join t.input member.1).toList =
      components t.scratch.toList ++ ("in" :: names member.1).map named := by
    rw [components_join t.input hplain, components_in, List.append_assoc]
    rfl
  have hdirs := createDirs_keeps_of_not_takes (mt (takes_of_within hparent) h)
  rw [writeMember]
  split
  · exact Keeps.refl place d
  · rcases hcreate : d.createDirs ((parent? (join t.input member.1)).getD "") with ⟨_ | e, d₁⟩ <;>
      rw [hcreate] at hdirs
    · have hland : ¬ land d₁.here (components (join t.input member.1).toList) <+: place :=
        fun hp => h (hdirs.takes_iff.mp (takes_of_within htarget (Or.inl hp)))
      dsimp only at hland ⊢
      cases hwrite : d₁.write (join t.input member.1) member.2 with
      | error e => exact hdirs
      | ok d₂ => exact hdirs.trans (write_keeps hland hwrite)
    · exact hdirs

lemma writeFamily_keeps (hcontained : ∀ member ∈ members, Catalog.isContained member.1 = true)
    (h : ¬ d.Takes t.scratch place) : Keeps place d (writeFamily t.input members d).2 := by
  induction members generalizing d with
  | nil => exact Keeps.refl place d
  | cons member members ih =>
    obtain ⟨hmember, hmembers⟩ := List.forall_mem_cons.mp hcontained
    have hkeeps := writeMember_keeps hmember h
    rw [writeFamily]
    rcases hwrite : writeMember t.input member d with ⟨e | ⟨⟩, d₁⟩ <;> rw [hwrite] at hkeeps
    · exact hkeeps
    · exact hkeeps.trans (ih hmembers (mt hkeeps.takes_iff.mp h))

lemma contained_of_readFamily (h : Catalog.readFamily d t.classJar name = .ok members) :
    ∀ member ∈ members, Catalog.isContained member.1 = true := by
  obtain ⟨opened, -, hholds⟩ := Catalog.readFamily_eq_ok h
  intro member hmember
  obtain ⟨m, -, hfamily, hname, -⟩ := hholds.exists_entry hmember
  exact hname ▸ (Catalog.inFamily_iff.mp hfamily).1

lemma prepare_keeps (name : String) (h : ¬ d.Takes t.scratch place) :
    Keeps place d (t.prepare name d).2 := by
  have hin : components t.input.toList = components t.scratch.toList ++ ["in"].map named :=
    components_in t
  have hout : components t.output.toList = components t.scratch.toList ++ ["out"].map named :=
    components_out t
  have hinput := resetDir_keeps (mt (takes_of_within hin) h)
  rw [prepare]
  rcases hreset : resetDir t.input d with ⟨e | ⟨⟩, d₁⟩ <;> rw [hreset] at hinput
  · exact hinput
  · have h₁ := mt hinput.takes_iff.mp h
    have houtput := hinput.trans (resetDir_keeps (mt (takes_of_within hout) h₁))
    dsimp only
    rcases hreset' : resetDir t.output d₁ with ⟨e | ⟨⟩, d₂⟩ <;> rw [hreset'] at houtput
    · exact houtput
    · dsimp only
      cases hread : Catalog.readFamily d₂ t.classJar name with
      | error e => exact houtput
      | ok family =>
        cases family with
        | nil => exact houtput
        | cons member family =>
          have hfamily := contained_of_readFamily hread
          exact houtput.trans (writeFamily_keeps hfamily (mt houtput.takes_iff.mp h))

lemma decompile_keeps (hspares : Spares launcher place) (cancelled : Option Nat) (name : String)
    (h : ¬ d.Takes t.scratch place) :
    Keeps place d (t.decompile launcher cancelled name d).2 := by
  have hprepare := prepare_keeps name h
  rw [decompile]
  rcases hp : t.prepare name d with ⟨e | ⟨⟩, d₁⟩ <;> rw [hp] at hprepare
  · exact hprepare
  · exact hprepare.trans (Java.run_keeps hspares _ _ _ _ d₁)

end Fernflower

namespace Factory

variable {f : Factory} {scratch : Nat → String}

lemma create_keeps (h : f.fresh = true → ¬ d.Takes path place) :
    Keeps place d (f.create path d).2 := by
  cases f with
  | cfr tool => exact Keeps.refl place d
  | fernflower java jar classJar =>
    rw [create]
    cases hcreate : d.createDir path with
    | error e => exact Keeps.refl place d
    | ok d' => exact createDir_keeps (fun hp => h rfl (Or.inl hp)) hcreate

lemma decompile_keeps (hspares : Spares launcher place) (h : f.fresh = true → ¬ d.Takes path place)
    (cancelled : Option Nat) (name : String) :
    Keeps place d (f.decompile path launcher cancelled name d).2 := by
  cases f with
  | cfr tool => exact Java.run_keeps hspares _ _ _ _ d
  | fernflower java jar classJar =>
    exact Fernflower.decompile_keeps
      (t := { java, fernflowerJar := jar, classJar, scratch := path }) hspares cancelled name (h rfl)

lemma drop_keeps (h : f.fresh = true → ¬ d.Takes path place) : Keeps place d (f.drop path d) := by
  cases f with
  | cfr tool => exact Keeps.refl place d
  | fernflower java jar classJar => exact removeDir_keeps fun hp => h rfl (Or.inl hp)

lemma uses_keeps (hspares : Spares launcher place)
    (h : f.fresh = true → ∀ number, ¬ d.Takes (scratch number) place)
    (huses : (f.backend scratch launcher).Uses d d') : Keeps place d d' := by
  induction huses with
  | nil => exact Keeps.refl place d
  | create number _ ih =>
    exact ih.trans (create_keeps fun hf => mt ih.takes_iff.mp (h hf number))
  | call number name _ ih =>
    exact ih.trans (decompile_keeps hspares (fun hf => mt ih.takes_iff.mp (h hf number)) none name)
  | drop number _ ih =>
    exact ih.trans (drop_keeps fun hf => mt ih.takes_iff.mp (h hf number))

lemma eq_fernflower_of_fresh {wanted : Decompiler} {toolchain : Toolchain} {classJar : String}
    (h : make wanted toolchain classJar = .ok f) (hf : f.fresh = true) : wanted = .fernflower := by
  cases wanted with
  | fernflower => rfl
  | cfr =>
    rw [make] at h
    cases hjar : toolchain.cfrJar with
    | none => rw [hjar] at h; cases h
    | some cfrJar =>
      rw [hjar] at h
      cases h
      cases hf

end Factory

namespace Toolchain

variable {tools : ToolPaths} {env : Environment} {decompiler : Decompiler} {t : Traces}

lemma getLast?_join (base : String) {rest : String} {last : Char}
    (h : rest.toList.getLast? = some last) : (join base rest).toList.getLast? = some last := by
  have happend : ∀ start : List Char, (start ++ rest.toList).getLast? = some last := by
    intro start
    rw [List.getLast?_append, h, Option.some_or]
  rw [join]
  split
  · exact h
  · split <;> simpa only [String.toList_append] using happend _

lemma components_defaultCfr (env : Environment) : components (defaultCfr env).toList =
    components (toolsDir env).toList ++ [named "cfr.jar"] := by
  have hplain : Plain "cfr.jar" := by decide
  have hnames : names "cfr.jar" = ["cfr.jar"] := by decide
  rw [defaultCfr, components_join _ hplain, hnames, List.map_singleton]

lemma components_parent_defaultCfr (env : Environment) :
    components ((parent? (defaultCfr env)).getD "").toList = components (toolsDir env).toList := by
  have hplain : Plain "cfr.jar" := by decide
  have hlast : (toolsDir env).toList.getLast? = some 's' := getLast?_join _ (by decide)
  have hnames : names "cfr.jar" = ["cfr.jar"] := by decide
  rw [defaultCfr, components_parent_join hlast (by decide) (by decide) hplain, hnames]
  simp

lemma install_keeps (hspares : Spares launcher place)
    (h : ¬ t.disk.Takes (defaultCfr env) place) :
    Keeps place t.disk (install launcher (defaultCfr env) t).2.disk := by
  have hdirs : Keeps place t.disk
      (t.disk.createDirs ((parent? (defaultCfr env)).getD "")).2 := by
    apply createDirs_keeps
    intro htrail hnone
    refine h (Or.inr ⟨?_, hnone⟩)
    rw [components_parent_defaultCfr] at htrail
    rw [components_defaultCfr, trail_append]
    exact List.mem_append_left _ htrail
  rw [install]
  rcases hcreate : t.disk.createDirs ((parent? (defaultCfr env)).getD "") with ⟨_ | e, d₁⟩ <;>
    rw [hcreate] at hdirs
  · dsimp only [Traces.notice] at hdirs ⊢
    cases hlaunch : launcher (curlRequest (defaultCfr env)) d₁ with
    | refused cause => exact hdirs
    | stopped d₂ => exact hdirs
    | finished result d₂ =>
      have hkeeps := hdirs.trans (hspares _ d₁ d₂ (by rw [hlaunch]; rfl))
      dsimp only
      split
      · exact hkeeps
      · -- what a failed download left is removed
        have hland : ¬ land d₂.here (components (defaultCfr env).toList) <+: place :=
          fun hp => h (hkeeps.takes_iff.mp (Or.inl hp))
        cases hremove : d₂.removeFile (defaultCfr env) with
        | error e => exact hkeeps
        | ok d₃ => exact hkeeps.trans (removeFile_keeps hland hremove)
  · exact hdirs

lemma install_stdout (launcher : Launcher) (target : String) (t : Traces) :
    (install launcher target t).2.stdout = t.stdout ∨
      ∃ d result d', launcher (curlRequest target) d = .finished result d' ∧
        (install launcher target t).2.stdout = t.stdout ++ result.stdout := by
  rw [install]
  rcases t.disk.createDirs ((parent? target).getD "") with ⟨_ | e, d₁⟩
  · dsimp only [Traces.notice]
    cases hlaunch : launcher (curlRequest target) d₁ with
    | refused cause => exact Or.inl rfl
    | stopped d₂ => exact Or.inl rfl
    | finished result d₂ =>
      refine Or.inr ⟨d₁, result, d₂, hlaunch, ?_⟩
      dsimp only
      split <;> rfl
  · exact Or.inl rfl

def Downloads (tools : ToolPaths) (env : Environment) (decompiler : Decompiler) (d : Disk) : Prop :=
  decompiler = .cfr ∧ tools.cfr.or (env.lookup "CFR_JAR") = none ∧
    d.has (defaultCfr env) = false

lemma resolve_cases (launcher : Launcher) (tools : ToolPaths) (env : Environment)
    (decompiler : Decompiler) (t : Traces) :
    (resolve launcher tools env decompiler t).2 = t ∨
      Downloads tools env decompiler t.disk ∧
        (resolve launcher tools env decompiler t).2 = (install launcher (defaultCfr env) t).2 := by
  cases decompiler with
  | fernflower => exact Or.inl rfl
  | cfr =>
    simp only [resolve, cfrPath]
    cases hpath : tools.cfr.or (env.lookup "CFR_JAR") with
    | some path => exact Or.inl rfl
    | none =>
      cases hhas : t.disk.has (defaultCfr env) with
      | true => exact Or.inl rfl
      | false =>
        refine Or.inr ⟨⟨rfl, hpath, hhas⟩, ?_⟩
        simp only [Bool.false_eq_true, if_false]

end Toolchain

/-- The paths at which the program changes the disk by itself before it has results. -/
def Owns (scratch : Nat → String) (tools : ToolPaths) (env : Environment)
    (decompiler : Decompiler) (d : Disk) (path : String) : Prop :=
  Toolchain.Downloads tools env decompiler d ∧ path = Toolchain.defaultCfr env ∨
    decompiler = .fernflower ∧ ∃ number, path = scratch number

/-- On the standard output stands at most what a download wrote there, and what is spared by the
programs that are run is kept but at the paths that are owned. -/
structure Quiet (scratch : Nat → String) (launcher : Launcher) (tools : ToolPaths)
    (env : Environment) (decompiler : Decompiler) (d : Disk) (stdout : Bytes) (d' : Disk) : Prop where
  printed : stdout = [] ∨ Toolchain.Downloads tools env decompiler d ∧
    ∃ d₁ result d₂, launcher (Toolchain.curlRequest (Toolchain.defaultCfr env)) d₁ =
      .finished result d₂ ∧ stdout = result.stdout
  kept : ∀ place, Spares launcher place →
    (∀ path, Owns scratch tools env decompiler d path → ¬ d.Takes path place) → Keeps place d d'

namespace Quiet

variable {tools : ToolPaths} {env : Environment} {decompiler : Decompiler} {stdout : Bytes}
  {classJar : String} {toolchain : Toolchain} {f : Factory} {scratch : Nat → String}

lemma refl (scratch : Nat → String) (launcher : Launcher) (tools : ToolPaths) (env : Environment)
    (decompiler : Decompiler) (d : Disk) : Quiet scratch launcher tools env decompiler d [] d :=
  ⟨Or.inl rfl, fun place _ _ => Keeps.refl place d⟩

lemma resolve (scratch : Nat → String) (launcher : Launcher) (tools : ToolPaths) (env : Environment)
    (decompiler : Decompiler) (d : Disk) :
    Quiet scratch launcher tools env decompiler d
      (Toolchain.resolve launcher tools env decompiler { disk := d }).2.stdout
      (Toolchain.resolve launcher tools env decompiler { disk := d }).2.disk := by
  rcases Toolchain.resolve_cases launcher tools env decompiler { disk := d } with
    he | ⟨hdownloads, he⟩
  · rw [he]
    exact refl scratch launcher tools env decompiler d
  · rw [he]
    refine ⟨?_, fun place hspares hown => ?_⟩
    · rcases Toolchain.install_stdout launcher (Toolchain.defaultCfr env) { disk := d } with
        hout | ⟨d₁, result, d₂, hlaunch, hout⟩
      · exact Or.inl hout
      · rw [List.nil_append] at hout
        exact Or.inr ⟨hdownloads, d₁, result, d₂, hlaunch, hout⟩
    · have htakes := hown (Toolchain.defaultCfr env) (Or.inl ⟨hdownloads, rfl⟩)
      exact Toolchain.install_keeps (t := { disk := d }) hspares htakes

lemma uses {d₁ d₂ : Disk} (h : Quiet scratch launcher tools env decompiler d stdout d₁)
    (hmake : Factory.make decompiler toolchain classJar = .ok f)
    (huses : (f.backend scratch launcher).Uses d₁ d₂) :
    Quiet scratch launcher tools env decompiler d stdout d₂ := by
  refine ⟨h.printed, fun place hspares hown => ?_⟩
  have hkeeps := h.kept place hspares hown
  refine hkeeps.trans (Factory.uses_keeps hspares (fun hfresh number => ?_) huses)
  have hdecompiler := Factory.eq_fernflower_of_fresh hmake hfresh
  exact mt hkeeps.takes_iff.mp (hown _ (Or.inr ⟨hdecompiler, number, rfl⟩))

end Quiet

end ClassBatch.Tool
