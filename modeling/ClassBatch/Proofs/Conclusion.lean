import ClassBatch.Proofs.Selection
import ClassBatch.Proofs.Tool.Sparing

/-! A command has nothing to show for a batch that has not completed. Under every schedule it either
stops early and leaves the disk to its tools, or it reports once on all that was recorded. -/

namespace ClassBatch

open Batch CommandLine Files Tool
open Text (Bytes)

namespace Program

structure Job where
  tools : ToolPaths
  jar : String
  selection : Selection
  threads : Nat
  timeout : UInt64
  decompiler : Decompiler
  output : Option String

def Job.config (j : Job) (host : Host) : Config :=
  Config.ofSeconds host.parallelism j.threads j.timeout

def Job.command (j : Job) : Command :=
  .decompile j.jar j.selection j.threads j.timeout j.decompiler j.output

section Schedules

variable (host : Host) (j : Job) (d : Disk)

structure Prepared (names : List String) (factory : Factory) (t : Toolchain.Traces) : Prop where
  wanted : wanted d j.jar j.selection = .ok names
  tool : ∃ toolchain,
    Toolchain.resolve host.launcher j.tools host.environment j.decompiler { disk := d } =
      (.ok toolchain, t) ∧
    Factory.make j.decompiler toolchain j.jar = .ok factory

inductive Unfinished (b : Backend Disk) (names : List String) (start : Disk) : Ending → Prop
  | refused {cause : DecompileError} (h : (b.create 0 start).1 = .error cause) :
      Unfinished b names start (.failed (.batch (.backend cause)))
  | overdue {readings : List Nat} (h : deadlines? (j.config host).timeout readings = none) :
      Unfinished b names start .panicked
  | aborted {actions : List Action} {s : System}
      (h : (System.initial (j.config host) b.fresh names).steps actions = some s)
      (hwatch : ∀ l, s.watch ≠ .over (.completed l)) :
      Unfinished b names start (.failed (.batch .aborted))
  | panicked {actions : List Action} {s : System}
      (h : (System.initial (j.config host) b.fresh names).steps actions = some s)
      (hwatch : s.watch = .over .panicked) : Unfinished b names start .panicked

/-- The results of a command that stops before its batch has completed, at whatever point. -/
inductive StopsEarly : Result → Prop
  | selection {cause : Failure} (h : wanted d j.jar j.selection = .error cause) :
      StopsEarly ⟨.failed cause, [], [], d⟩
  | tool {names : List String} {cause : ToolError} {t : Toolchain.Traces}
      (hwanted : wanted d j.jar j.selection = .ok names)
      (h : Toolchain.resolve host.launcher j.tools host.environment j.decompiler { disk := d } =
        (.error cause, t)) : StopsEarly ⟨.failed (.tool cause), t.stdout, t.stderr, t.disk⟩
  | factory {names : List String} {toolchain : Toolchain} {cause : ToolError}
      {t : Toolchain.Traces} (hwanted : wanted d j.jar j.selection = .ok names)
      (hresolve : Toolchain.resolve host.launcher j.tools host.environment j.decompiler
        { disk := d } = (.ok toolchain, t))
      (h : Factory.make j.decompiler toolchain j.jar = .error cause) :
      StopsEarly ⟨.failed (.tool cause), t.stdout, t.stderr, t.disk⟩
  | batch {names : List String} {factory : Factory} {t : Toolchain.Traces} {disk : Disk}
      {ending : Ending} (stderr : Bytes) (hprepared : Prepared host j d names factory t)
      (huses : (factory.backend host.scratch host.launcher).Uses t.disk disk)
      (h : Unfinished host j (factory.backend host.scratch host.launcher) names t.disk ending) :
      StopsEarly ⟨ending, t.stdout, stderr, disk⟩

/-- The result of a command with the batch that it has completed, and what there was by then. -/
structure Completes {names : List String} (b : CompletedBatch names) (t : Toolchain.Traces)
    (r : Result) : Prop where
  batch : ∃ factory t₀, Prepared host j d names factory t₀ ∧
    (factory.backend host.scratch host.launcher).Uses t₀.disk t.disk ∧ t.stdout = t₀.stdout ∧
    b.config = j.config host ∧ b.fresh = factory.fresh
  concluded : ∃ elapsed, r = conclude host.room b.ledger elapsed j.output t

end Schedules

variable {host : Host} {j : Job} {d : Disk} {words : List String} {names : List String}
  {verbose : Bool} {factory : Factory} {t : Toolchain.Traces}

lemma Prepared.quiet (h : Prepared host j d names factory t) {disk : Disk}
    (huses : (factory.backend host.scratch host.launcher).Uses t.disk disk) :
    Quiet host.scratch host.launcher j.tools host.environment j.decompiler d t.stdout disk := by
  obtain ⟨toolchain, hresolve, hmake⟩ := h.tool
  have hquiet := Quiet.resolve host.scratch host.launcher j.tools host.environment j.decompiler d
  rw [hresolve] at hquiet
  exact hquiet.uses hmake huses

lemma StopsEarly.quiet {r : Result} (h : StopsEarly host j d r) : r.ending ≠ .done ∧
    Quiet host.scratch host.launcher j.tools host.environment j.decompiler d r.stdout r.disk := by
  have hresolved := Quiet.resolve host.scratch host.launcher j.tools host.environment j.decompiler d
  cases h with
  | selection h => exact ⟨nofun, Quiet.refl _ _ _ _ _ d⟩
  | tool hwanted h =>
    rw [h] at hresolved
    exact ⟨nofun, hresolved⟩
  | factory hwanted hresolve h =>
    rw [hresolve] at hresolved
    exact ⟨nofun, hresolved⟩
  | batch stderr hprepared huses h =>
    refine ⟨?_, hprepared.quiet huses⟩
    cases h <;> nofun

lemma Completes.quiet {b : CompletedBatch names} {r : Result} (h : Completes host j d b t r) :
    Quiet host.scratch host.launcher j.tools host.environment j.decompiler d t.stdout t.disk := by
  obtain ⟨factory, t₀, hprepared, huses, hstdout, -, -⟩ := h.batch
  rw [hstdout]
  exact hprepared.quiet huses

def Job.over (tools : ToolPaths) (output : String) : Job where
  tools := tools
  jar := "app.jar"
  selection := .all
  threads := 2
  timeout := 10
  decompiler := .cfr
  output := some output

end Program

end ClassBatch
