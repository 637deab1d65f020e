import ClassBatch.Proofs.Selection

/-! CFR is asked for classes by dotted names. Two names are asked for in the same words if they
differ only by dots in the place of slashes, and a jar may list both. -/

namespace ClassBatch.Tool.Cfr

open Batch Files
open Program (selectClasses)

def dot (c : Char) : Char :=
  if c = '/' then '.' else c

/-- The same name but for dots in the place of slashes, or slashes in the place of dots. -/
def Homonymous (name other : String) : Prop :=
  List.Forall₂ (fun c c' => c = c' ∨ c = '.' ∧ c' = '/' ∨ c = '/' ∧ c' = '.')
    name.toList other.toList

variable {c c' : Char} {name other : String} {names : List String} {d : Disk} {p : Pattern}

lemma dot_of_ne (h : c ≠ '/') : dot c = c :=
  if_neg h

lemma dot_eq_dot_iff : dot c = dot c' ↔ c = c' ∨ c = '.' ∧ c' = '/' ∨ c = '/' ∧ c' = '.' := by
  by_cases hc : c = '/' <;> by_cases hc' : c' = '/'
  · simp [hc, hc']
  · rw [hc, dot_of_ne hc']
    simp [dot, hc', eq_comm]
  · rw [hc', dot_of_ne hc]
    simp [dot, hc]
  · rw [dot_of_ne hc, dot_of_ne hc']
    simp [hc, hc']

lemma dotted_eq_dotted_iff : dotted name = dotted other ↔ Homonymous name other := by
  have hmap : dotted name = dotted other ↔ name.toList.map dot = other.toList.map dot := by
    rw [← String.toList_inj, dotted, dotted, String.toList_ofList, String.toList_ofList]
    exact Iff.rfl
  rw [hmap, ← List.forall₂_eq_eq_eq, List.forall₂_map_left_iff, List.forall₂_map_right_iff,
    Homonymous]
  simp only [dot_eq_dot_iff]

lemma arguments_eq_iff (t : Cfr) :
    t.arguments name = t.arguments other ↔ Homonymous name other := by
  rw [← dotted_eq_dotted_iff]
  simp [arguments]

lemma Homonymous.eq_of_dot_not_mem (h : Homonymous name other) (hname : '.' ∉ name.toList)
    (hother : '.' ∉ other.toList) : name = other := by
  rw [← String.toList_inj, ← List.forall₂_eq_eq_eq]
  unfold Homonymous at h
  -- by induction on how the two agree; a dot on either side is excluded at each character
  generalize name.toList = s at h hname
  generalize other.toList = s' at h hother
  induction h with
  | nil => exact .nil
  | @cons c c' s s' hc _ ih =>
    rw [List.mem_cons, not_or] at hname hother
    refine .cons ?_ (ih hname.2 hother.2)
    rcases hc with hc | ⟨hc, -⟩ | ⟨-, hc⟩
    · exact hc
    · exact absurd hc.symm hname.1
    · exact absurd hc.symm hother.1

lemma task_arguments (t : Cfr) {config : Config} {fresh : Bool} {actions : List Action} {s : System}
    (hselect : selectClasses d t.classJar p = .ok names)
    (hsteps : (System.initial config fresh names).steps actions = some s) :
    (s.tasks.map fun task => t.arguments task.name) = names.map t.arguments := by
  have hsound := (System.run_of_steps hsteps).sound
  have hordered := Program.ordered_of_selectClasses hselect
  rw [← hordered.sorted_eq, ← hsound.names, List.map_map]
  rfl

lemma nodup_arguments_iff (t : Cfr) (h : names.Nodup) :
    (names.map t.arguments).Nodup ↔
      ∀ name ∈ names, ∀ other ∈ names, Homonymous name other → name = other := by
  rw [List.nodup_map_iff_inj_on h]
  simp only [arguments_eq_iff]

/-- Two names are asked for in the same words exactly if they differ by dots in the place of slashes
only. The tasks of a batch ask for classes of their own if no two of its names do so, as when none
of them has a dot. -/
theorem listed_classes_apart (t : Cfr) :
    (∀ name other, t.arguments name = t.arguments other ↔ Homonymous name other) ∧
    (∀ name other, '.' ∉ name.toList → '.' ∉ other.toList → name ≠ other →
      t.arguments name ≠ t.arguments other) ∧
    ∀ d p names, selectClasses d t.classJar p = .ok names →
      ∀ config fresh actions s, (System.initial config fresh names).steps actions = some s →
        ((s.tasks.map fun task => t.arguments task.name).Nodup ↔
          ∀ name ∈ names, ∀ other ∈ names, Homonymous name other → name = other) ∧
        ((∀ name ∈ names, '.' ∉ name.toList) →
          (s.tasks.map fun task => t.arguments task.name).Nodup) := by
  refine ⟨fun name other => t.arguments_eq_iff, ?_, ?_⟩
  · intro name other hname hother hne harguments
    exact hne (((arguments_eq_iff t).mp harguments).eq_of_dot_not_mem hname hother)
  · intro d p names hselect config fresh actions s hsteps
    have hnodup := (Program.ordered_of_selectClasses hselect).nodup
    rw [task_arguments t hselect hsteps, nodup_arguments_iff t hnodup]
    refine ⟨Iff.rfl, fun hdots name hname other hother hsame => ?_⟩
    exact hsame.eq_of_dot_not_mem (hdots name hname) (hdots other hother)

theorem listed_classes_apart_of_homonyms :
    selectClasses Program.homonyms "app.jar" (.package "a") = .ok ["a/D", "a/b/C"] ∧
    (∃ s, (System.initial Config.default false ["a/D", "a/b/C"]).steps [.submit "a/D"] = some s ∧
      (s.tasks.map fun task => (Cfr.mk "java" "cfr.jar" "app.jar").arguments task.name).Nodup) ∧
    (Cfr.mk "java" "cfr.jar" "app.jar").arguments "a/D" ≠
      (Cfr.mk "java" "cfr.jar" "app.jar").arguments "a/b/C" := by
  obtain ⟨-, hapart, hbatch⟩ := listed_classes_apart ⟨"java", "cfr.jar", "app.jar"⟩
  have hselect : selectClasses Program.homonyms "app.jar" (.package "a") =
      .ok ["a/D", "a/b/C"] := by
    decide +kernel
  have hstarted : ((System.initial Config.default false ["a/D", "a/b/C"]).steps
      [.submit "a/D"]).isSome = true := by
    decide
  obtain ⟨s, hsteps⟩ := Option.isSome_iff_exists.mp hstarted
  obtain ⟨-, hnodup⟩ := hbatch Program.homonyms (.package "a") _ hselect _ _ _ s hsteps
  exact ⟨hselect, ⟨s, hsteps, hnodup (by decide)⟩, hapart "a/D" "a/b/C" (by decide) (by decide)
    (by decide)⟩

theorem listed_classes_together :
    Catalog.list Program.homonyms "app.jar" = .ok ["a.b/C", "a/D", "a/b/C"] ∧
    selectClasses Program.homonyms "app.jar" .all = .ok ["a.b/C", "a/D", "a/b/C"] ∧
    (Cfr.mk "java" "cfr.jar" "app.jar").arguments "a.b/C" =
      (Cfr.mk "java" "cfr.jar" "app.jar").arguments "a/b/C" ∧
    ¬ ((System.initial Config.default false ["a.b/C", "a/D", "a/b/C"]).tasks.map fun task =>
      (Cfr.mk "java" "cfr.jar" "app.jar").arguments task.name).Nodup := by
  decide +kernel

end ClassBatch.Tool.Cfr
