import ClassBatch.Proofs.Bundle
import ClassBatch.Proofs.Files.Writes

/-! The two commands of the program agree: what one lists is what the other saves. -/

namespace ClassBatch

open Batch CommandLine Files Tool
open Text (Bytes)

namespace Batch

def Ledger.text (l : Ledger) (name : String) : String :=
  (l.sources.lookup name).getD ""

/-- A batch that has completed, by whatever schedule. -/
structure CompletedBatch (names : List String) where
  config : Config
  fresh : Bool
  actions : List Action
  final : System
  ledger : Ledger
  steps : (System.initial config fresh names).steps actions = some final
  «over» : final.watch = .over (.completed ledger)

namespace CompletedBatch

variable {names : List String} (b : CompletedBatch names) {name : String}

def entries : List Entry :=
  System.entries (System.initial b.config b.fresh names) b.actions

lemma ledger_complete : b.ledger.FilledBy (Names.sorted names).length b.entries ∧
    Names.keys b.ledger.results = Names.sorted names :=
  System.complete_of_over b.steps b.over

end CompletedBatch

end Batch

namespace Bundle

def files (text : String → String) (names : List String) : List (String × Bytes) :=
  names.map fun name => (name ++ ".java", Text.encode (text name))

end Bundle

namespace Program

variable {d : Disk} {jar pattern path : String} {names : List String} {host : Host}
  {tools : ToolPaths} {config : Config} {decompiler : Decompiler} {room : Option Nat}
  {text : Bytes} {ending : Ending}

def RunOn (host : Host) (config : Config) (b : CompletedBatch names) : Prop :=
  ∃ (factory : Factory) (disk disk' : Disk) (course : Course),
    Course.run (factory.backend host.scratch host.launcher) config {} false host.now names disk =
      (.ok course, disk') ∧ b.config = config ∧ b.final = course.ending

def reported (room : Option Nat) (report : Report) (ending : Ending) (t : Toolchain.Traces)
    (disk : Disk) : Result :=
  let text := Text.encode (report.render ++ "\n")
  ⟨(print room text ending).2, t.stdout ++ (print room text ending).1, t.stderr, disk⟩

section Concluding

variable {l : Ledger} {disk : Disk} {t : Toolchain.Traces} (room : Option Nat) (elapsed : Duration)

end Concluding

lemma runBatch_done {factory : Factory} {t : Toolchain.Traces} {output : Option String}
    (hdone : (runBatch host factory config names output t).ending = .done) :
    ∃ (b : CompletedBatch names) (elapsed : Duration) (t' : Toolchain.Traces),
      RunOn host config b ∧
        runBatch host factory config names output t =
          conclude host.room b.ledger elapsed output t' := by
  rw [runBatch] at hdone ⊢
  rcases hcourse : Course.run (factory.backend host.scratch host.launcher) config {} false host.now
    names t.disk with ⟨cause | course, disk⟩
  · rw [hcourse] at hdone
    cases cause <;> cases hdone
  · rw [hcourse] at hdone
    obtain ⟨actions, hsteps⟩ := Course.reaches_ending hcourse
    dsimp only at hdone ⊢
    split at hdone
    · rename_i l hover
      exact ⟨⟨config, _, actions, course.ending, l, hsteps, hover⟩, _, _,
        ⟨factory, t.disk, disk, course, hcourse, rfl, rfl⟩, rfl⟩
    · cases hdone
    · cases hdone

lemma decompile_done {selection : Selection} {output : Option String}
    (hwanted : wanted d jar selection = .ok names)
    (hdone : (decompile host tools jar selection config decompiler output d).ending = .done) :
    ∃ (b : CompletedBatch names) (elapsed : Duration) (t : Toolchain.Traces),
      RunOn host config b ∧ decompile host tools jar selection config decompiler output d =
        conclude host.room b.ledger elapsed output t := by
  rw [decompile, hwanted] at hdone ⊢
  dsimp only at hdone ⊢
  rcases hresolve : Toolchain.resolve host.launcher tools host.environment decompiler { disk := d }
    with ⟨cause | toolchain, t⟩
  · rw [hresolve] at hdone
    cases hdone
  · rw [hresolve] at hdone
    dsimp only at hdone ⊢
    cases hmake : Factory.make decompiler toolchain jar with
    | error cause => rw [hmake] at hdone; cases hdone
    | ok factory =>
      rw [hmake] at hdone
      exact runBatch_done hdone

def uniformHost : Host where
  environment := ⟨[], "/root"⟩
  parallelism := 2
  launcher := fun _ d => .finished ⟨.code 0, Text.encode "class C {}\n", [], 0⟩ d

end Program

end ClassBatch
