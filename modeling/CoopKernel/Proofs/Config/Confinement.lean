import CoopKernel.Proofs.Config.Resolution
import CoopKernel.Proofs.Machine.Regions
import CoopKernel.Proofs.Trap.Handover

/-! # What a task of a resolved application may reach

The kernel expects sections that begin at a multiple of their size, and its own check asks for multiples of
32 only. An application resolves with either. `confined_iff` says what a task gets of an application that
resolves: the region of a section stays within it exactly if the section is aligned, and a section that is
not takes in what precedes it, whosever it is. `unconfined` is a task that can write 32 bytes before its data.
-/

namespace CoopKernel.App

open CortexM (Covers regionNumber)

variable {app : App} {config : KernelConfig} {before after : CortexM}

/-- The regions that are programmed for a task of an application, as far as they reach: each is within its section
exactly if that is aligned, and all are within the task exactly if what precedes its sections is its own. -/
theorem confined_iff (resolved : app.resolve = .ok config) (place : Fin app.tasks.length)
    (tableEq : before.table = config.descs)
    (switched : CortexM.switchSpace (.ofIndex place) before = .ok () after) :
    (∀ kind, (∀ address, Covers (after.protection.regions (regionNumber kind)) address →
        ((app.taskAt place).region kind).Contains address) ↔ ((app.taskAt place).region kind).IsAligned) ∧
      (after.protection.Confines (app.taskAt place).region ↔
        ∀ kind address, ((app.taskAt place).region kind).Precedes address →
          ∃ other, ((app.taskAt place).region other).Contains address) := by
  have resolved := resolve_ok resolved
  obtain ⟨table, listed⟩ := resolved.exists_table
  have regionEq : (app.taskAt place).region = (table.get place).region :=
    funext fun kind => ((resolved.describes listed).region_eq place kind).symm
  have found := CortexM.lookup_ofIndex resolved.small (tableEq.trans listed.symm) place
  unfold CortexM.switchSpace at switched
  rw [found] at switched
  obtain ⟨⟨words, wordsEq, programmed⟩, -⟩ := CortexM.protect_ok switched
  rw [regionEq]
  exact ⟨programmed.forall_contains_iff wordsEq, programmed.confines_iff wordsEq⟩

/-- The sections of a task of the demo are aligned, so its regions stay within it. -/
theorem confined_demo : ∃ after, Demo.app.resolve = .ok Demo.config ∧
    CortexM.switchSpace (.ofIndex 1) (CortexM.start Demo.config.descs [8] ⟨0, []⟩ 0 none) = .ok () after ∧
    after.protection.Confines (Demo.app.taskAt (1 : Fin 4)).region := by
  obtain ⟨after, switched⟩ : ∃ after, CortexM.switchSpace (.ofIndex 1)
      (CortexM.start Demo.config.descs [8] ⟨0, []⟩ 0 none) = .ok () after := ⟨_, rfl⟩
  refine ⟨after, Demo.resolve_app, switched, ?_⟩
  refine (confined_iff Demo.resolve_app (1 : Fin 4) rfl switched).2.mpr fun kind address precedes => ?_
  have aligned : ∀ kind, ((Demo.app.taskAt (1 : Fin 4)).region kind).IsAligned := by
    intro kind
    cases kind <;> decide
  exact absurd precedes (Section.isAligned_iff.mp (aligned kind) address)

/-- An application that resolves, although the data of its task begins 32 bytes behind a multiple of its size. -/
def displaced : App where
  name := "displaced"
  interruptTask := none
  irqs := []
  tasks := [("a", ⟨⟨1⟩, [], ⟨0x08000000, 0x1000⟩, ⟨0x20000020, 0x40⟩, ⟨0x20000400, 0x400⟩⟩)]
  distinct := by decide

/-- The task reads and writes the 32 bytes before its data, which are in none of its sections. -/
theorem unconfined : ∃ config after, displaced.resolve = .ok config ∧
    CortexM.switchSpace (.ofIndex 0) (CortexM.start config.descs [] ⟨0, []⟩ 0 none) = .ok () after ∧
    Covers (after.protection.regions (regionNumber .bss)) 0x20000000 ∧
    (∀ kind, ¬ ((displaced.taskAt (0 : Fin 1)).region kind).Contains 0x20000000) ∧
    ¬ after.protection.Confines (displaced.taskAt (0 : Fin 1)).region := by
  have covered : Covers (0x20000020, CortexM.attributeWord .data 0x40) 0x20000000 := by decide
  have foreign : ∀ kind, ¬ ((displaced.taskAt (0 : Fin 1)).region kind).Contains 0x20000000 := by
    intro kind
    cases kind <;> decide
  refine ⟨⟨[⟨"a", ⟨1⟩, ⟨0⟩, ⟨0x08000000, 0x1000⟩, ⟨0x20000020, 0x40⟩, ⟨0x20000400, 0x400⟩⟩], none, []⟩, _,
    by decide +kernel, rfl, covered, foreign, fun confines => ?_⟩
  obtain ⟨kind, contains⟩ := confines 1 (by decide) 0x20000000 covered
  exact foreign kind contains

end CoopKernel.App
