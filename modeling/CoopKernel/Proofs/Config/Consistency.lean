import Mathlib.Algebra.Ring.Nat
import CoopKernel.Proofs.Config.Resolution
import CoopKernel.Proofs.Kernel.Replay

/-! # Which applications resolve

An application is consistent if its number of tasks fits the table, its names all stand for tasks, its
sections have bytes and end within the address space, and its interrupt lines are minded. These are exactly
the applications that resolve. `Renders` is what the configuration says of the application then: nothing is
lost or put elsewhere, and the bits of a task's word are those of its senders, without others behind the last
task unless everyone is a sender.
-/

namespace CoopKernel

/-- A section has bytes, and the address one past its end is an address too. -/
structure Section.IsSound (region : Section) : Prop where
  occupied : 0 < region.size.toNat
  bounded : region.address.toNat + region.size.toNat < 2 ^ 32

theorem Section.isSound_iff {region : Section} :
    region.IsSound ↔ region.isEmpty = false ∧ region.isBounded = true := by
  have occupied : region.isEmpty = false ↔ 0 < region.size.toNat := by
    rw [isEmpty, beq_eq_false_iff_ne, Nat.pos_iff_ne_zero, ne_eq, ne_eq, ← UInt32.toNat_inj, UInt32.toNat_zero]
  have bounded : region.isBounded = true ↔ region.address.toNat + region.size.toNat < 2 ^ 32 := decide_eq_true_iff
  rw [occupied, bounded]
  exact ⟨fun sound => ⟨sound.occupied, sound.bounded⟩, fun sound => ⟨sound.1, sound.2⟩⟩

/-- The bit of a place is set when the set holds the id of the place. -/
theorem TaskMask.getLsbD_bits {mask : TaskMask} {place : Nat} (small : place < maxTasks) :
    mask.bits.toBitVec.getLsbD place = mask.contains (.ofIndex place) := by
  rw [contains_eq, TaskId.index?_ofIndex (Nat.lt_trans small (by decide)), Option.any_some, decide_eq_true small,
    Bool.true_and]

namespace App

variable {app : App} {config : KernelConfig}

/-- The application has a task of a name. -/
def Declares (app : App) (name : String) : Prop := name ∈ app.tasks.map (·.1)

/-- An application in which nothing is wrong. -/
structure Consistent (app : App) : Prop where
  occupied : 0 < app.tasks.length
  small : app.tasks.length ≤ maxTasks
  senders : ∀ entry ∈ app.tasks, ∀ sender ∈ entry.2.senders, sender = anySender ∨ app.Declares sender
  sections : ∀ entry ∈ app.tasks, ∀ kind, (entry.2.region kind).IsSound
  interruptTask : ∀ name ∈ app.interruptTask, app.Declares name
  minded : app.interruptTask = none → app.irqs = []

/-- What a configuration has to say of a task of an application. -/
structure Carries (app : App) (entry : String × AppTask) (task : TaskConfig) : Prop where
  name_eq : task.name = entry.1
  priority_eq : task.priority = entry.2.priority
  text_eq : task.text = entry.2.text
  bss_eq : task.bss = entry.2.bss
  stack_eq : task.stack = entry.2.stack
  bit_iff : ∀ sender : Fin app.tasks.length, task.permission.bits.toBitVec.getLsbD sender = true ↔
    anySender ∈ entry.2.senders ∨ app.nameAt sender ∈ entry.2.senders
  no_bit : anySender ∉ entry.2.senders → ∀ index, app.tasks.length ≤ index →
    task.permission.bits.toBitVec.getLsbD index = false

/-- What a configuration has to say of an application. -/
structure Renders (app : App) (config : KernelConfig) : Prop where
  tasks : List.Forall₂ app.Carries app.tasks config.tasks
  interruptTask : ∃ place : Option (Fin app.tasks.length),
    config.interruptTask.map UInt64.toNat = place.map Fin.val ∧ place.map app.nameAt = app.interruptTask
  irqs_eq : config.irqs = app.irqs

/-! ## Names that stand for something -/

theorem exists_index?_iff {name : String} : (∃ index, app.index? name = some index) ↔ app.Declares name := by
  rw [Declares, List.mem_map]
  constructor
  · rintro ⟨index, found⟩
    obtain ⟨place, -, named⟩ := index?_eq_some_iff.mp found
    exact ⟨app.tasks.get place, List.get_mem .., named⟩
  · rintro ⟨entry, member, named⟩
    obtain ⟨place, rfl⟩ := List.get_of_mem member
    exact ⟨place.val, index?_eq_some_iff.mpr ⟨place, rfl, named⟩⟩

theorem exists_senderMask?_iff {sender : String} :
    (∃ mask, app.senderMask? sender = some mask) ↔ sender = anySender ∨ app.Declares sender := by
  rw [← exists_index?_iff, senderMask?]
  by_cases any : sender = anySender
  · exact iff_of_true ⟨.full, if_pos any⟩ (.inl any)
  · rw [if_neg any, or_iff_right any]
    simp only [Option.map_eq_some_iff]
    exact ⟨fun ⟨_, index, found, _⟩ => ⟨index, found⟩, fun ⟨index, found⟩ => ⟨_, index, found, rfl⟩⟩

/-- A list of senders has a word exactly if each of them stands for something, also behind one that stands for all. -/
theorem exists_permission_iff (app : App) (name : String) (senders : List String) :
    (∃ mask, app.permission name senders = .ok mask) ↔
      ∀ sender ∈ senders, sender = anySender ∨ app.Declares sender := by
  induction senders with
  | nil => exact iff_of_true ⟨_, rfl⟩ (List.forall_mem_nil _)
  | cons sender rest ih =>
    rw [List.forall_mem_cons, ← ih, ← exists_senderMask?_iff]
    constructor
    · rintro ⟨mask, found⟩
      obtain ⟨own, others, known, later, -⟩ := permission_cons_ok found
      exact ⟨⟨own, known⟩, ⟨others, later⟩⟩
    · rintro ⟨⟨own, known⟩, others, later⟩
      refine ⟨own ∪ others, ?_⟩
      rw [permission, known, later]
      rfl

/-- A name that stands for nothing is refused behind one that stands for everyone. -/
example : Demo.app.permission "app1" [anySender, "ghost"] = .error (.unknownSender "app1" "ghost") := by decide +kernel

theorem exists_resolveInterruptTask_iff : (∃ place, app.resolveInterruptTask = .ok place) ↔
    (∀ name ∈ app.interruptTask, app.Declares name) ∧ (app.interruptTask = none → app.irqs = []) := by
  unfold resolveInterruptTask
  cases app.interruptTask with
  | none => cases app.irqs <;> simp
  | some name =>
    have declared : (∀ other ∈ some name, app.Declares other) ↔ app.Declares name := by simp
    rw [declared, ← exists_index?_iff]
    cases found : app.index? name <;> simp [found]

/-! ## Applications that resolve -/

/-- A task of an application resolves exactly if its senders stand for something and its sections are sound. -/
theorem exists_resolves_iff {entry : String × AppTask} : (∃ task, app.Resolves entry task) ↔
    (∀ sender ∈ entry.2.senders, sender = anySender ∨ app.Declares sender) ∧
      ∀ kind, (entry.2.region kind).IsSound := by
  rw [← exists_permission_iff app entry.1]
  simp only [Section.isSound_iff]
  constructor
  · rintro ⟨task, resolves⟩
    exact ⟨⟨task.permission, resolves.permission_eq⟩, resolves.sections⟩
  · rintro ⟨⟨mask, known⟩, sound⟩
    exact ⟨⟨entry.1, entry.2.priority, mask, entry.2.text, entry.2.bss, entry.2.stack⟩,
      rfl, rfl, known, fun kind => by cases kind <;> rfl, sound⟩

theorem exists_resolved_iff : (∃ config, app.Resolved config) ↔ app.Consistent := by
  constructor
  · rintro ⟨config, resolved⟩
    have each := exists_forall₂_iff.mp ⟨_, resolved.tasks⟩
    obtain ⟨declared, minded⟩ := exists_resolveInterruptTask_iff.mp ⟨_, resolved.interruptTask⟩
    exact ⟨resolved.occupied, resolved.small, fun entry member => (exists_resolves_iff.mp (each entry member)).1,
      fun entry member => (exists_resolves_iff.mp (each entry member)).2, declared, minded⟩
  · intro consistent
    obtain ⟨tasks, resolves⟩ := exists_forall₂_iff.mpr fun entry member =>
      exists_resolves_iff.mpr ⟨consistent.senders entry member, consistent.sections entry member⟩
    obtain ⟨place, placed⟩ := exists_resolveInterruptTask_iff.mpr ⟨consistent.interruptTask, consistent.minded⟩
    exact ⟨⟨tasks, place, app.irqs⟩, consistent.occupied, consistent.small, resolves, placed, rfl⟩

/-! ## What the configuration says -/

theorem Resolves.carries {entry : String × AppTask} {task : TaskConfig} (small : app.tasks.length ≤ maxTasks)
    (resolves : app.Resolves entry task) : app.Carries entry task where
  name_eq := resolves.name_eq
  priority_eq := resolves.priority_eq
  text_eq := resolves.region_eq .text
  bss_eq := resolves.region_eq .bss
  stack_eq := resolves.region_eq .stack
  bit_iff sender := by
    rw [TaskMask.getLsbD_bits (Nat.lt_of_lt_of_le sender.isLt small)]
    exact contains_permission small resolves.permission_eq sender
  no_bit notAny index behind := by
    rcases Nat.lt_or_ge index maxTasks with bound | outside
    · rw [TaskMask.getLsbD_bits bound, Bool.eq_false_iff, ne_eq,
        contains_permission_iff small resolves.permission_eq bound, or_iff_right notAny]
      rintro ⟨sender, -, found⟩
      obtain ⟨place, rfl, -⟩ := index?_eq_some_iff.mp found
      exact absurd place.isLt (Nat.not_lt.mpr behind)
    · exact BitVec.getLsbD_of_ge _ _ outside

/-- Exactly the consistent applications resolve, and the configuration renders the application. -/
theorem resolves_exactly (app : App) : ((∃ config, app.resolve = .ok config) ↔ app.Consistent) ∧
    ∀ config, app.resolve = .ok config → app.Renders config := by
  constructor
  · rw [← exists_resolved_iff]
    exact exists_congr fun _ => resolve_ok_iff
  · intro config answered
    have resolved := resolve_ok_iff.mp answered
    exact ⟨resolved.tasks.imp fun _ _ => Resolves.carries resolved.small, resolved.interruptTask_eq, resolved.irqs_eq⟩

theorem resolves_exactly_demo : Demo.app.Consistent ∧ Demo.app.Renders Demo.config :=
  ⟨(resolves_exactly Demo.app).1.mp ⟨_, Demo.resolve_app⟩, (resolves_exactly Demo.app).2 _ Demo.resolve_app⟩

end App

end CoopKernel
