import CoopKernel.Config.Handoff
import CoopKernel.Config.TableText
import CoopKernel.Proofs.Kernel.Replay

/-! # The interrupt task of a configuration that comes ready made

A configuration that is handed over is not resolved, so the place of its interrupt task can be any
number, and only its low eight bits are written into the table. The kernel checks what is left:
`interrupts_kept_iff` says that the id in the table means the task of the configuration exactly if the
place was one of the table to begin with. Any other place that gets by is taken for another task, or for
none (`new_interruptTask_eq`), as `interrupts_redirected` shows.
-/

namespace CoopKernel

/-- An id has the low eight bits of an index, and names the place that they are if that is below 128. -/
theorem TaskId.index?_ofIndex_eq (index : Nat) :
    (ofIndex index).index? = if index % 256 < 128 then some (index % 256) else none := by
  -- all bytes are tried, and any index is taken to its last byte
  have every : ∀ i : Fin 256, (ofIndex i.val).index? = if i.val < 128 then some i.val else none := by
    decide +kernel
  have sameId : ofIndex index = ofIndex (index % 256) := by
    rw [ofIndex, ofIndex, TaskId.mk.injEq, ← Int8.toBitVec_inj]
    exact BitVec.eq_of_toNat_eq (by simp)
  rw [sameId]
  exact every ⟨index % 256, Nat.mod_lt _ (by decide)⟩

/-- The id of the interrupt task means the task of the configuration, or nobody if there is none. -/
structure KernelConfig.Denotes (config : KernelConfig) : Prop where
  nobody_iff : config.interruptId = .nobody ↔ config.interruptTask = none
  index_iff : ∀ index, config.interruptId.index? = some index ↔ config.interruptTask.map UInt64.toNat = some index

namespace Kernel

variable {width : Width} {M S : Type} {n : Nat}

/-- The interrupt task that is accepted for an id is the one that it names, and only nobody's id may name none. -/
theorem interruptPlace_ok_iff {id : TaskId} {place : Option (Fin n)} :
    interruptPlace n id = .ok place ↔ id.within n = place ∧ (place = none → id = .nobody) := by
  have unnamed : TaskId.nobody.within n = none := by rw [TaskId.within, TaskId.index?_nobody, Option.bind_none]
  unfold interruptPlace
  split
  · next isNobody =>
    rw [isNobody, unnamed, Except.ok.injEq]
    exact ⟨fun same => ⟨same, fun _ => rfl⟩, And.left⟩
  · next isSomebody =>
    cases id.within n with
    | none =>
      constructor
      · rintro ⟨⟩
      rintro ⟨rfl, onlyNobody⟩
      exact absurd (onlyNobody rfl) isSomebody
    | some found =>
      rw [Except.ok.injEq]
      refine ⟨fun same => ⟨same, fun none => ?_⟩, And.left⟩
      cases same.trans none

variable [Machine M S] {config : KernelConfig} {table : Vector TaskDesc n} {machine : M} {fresh : Kernel width M S n}

/-- The kernel takes the low eight bits of the configured place for the place. -/
theorem new_interruptTask_eq (made : Kernel.new table config.interruptId machine = .ok fresh) :
    fresh.interruptTask.map Fin.val = config.interruptTask.bind fun place =>
      if place.toNat % 256 < n then some (place.toNat % 256) else none := by
  have small : n ≤ 128 := Nat.le_trans fresh.fits (by decide)
  rw [← (interruptPlace_ok_iff.mp (new_interruptTask made)).1]
  cases configured : config.interruptTask with
  | none =>
    rw [KernelConfig.interruptId_of_none configured, TaskId.within, TaskId.index?_nobody]
    rfl
  | some place =>
    rw [KernelConfig.interruptId_of_some configured, TaskId.within, TaskId.index?_ofIndex_eq, Option.bind_some]
    by_cases inside : place.toNat % 256 < n
    · simp [inside, Nat.lt_of_lt_of_le inside small]
    · by_cases natural : place.toNat % 256 < 128 <;> simp [inside, natural]

/-- The id that the kernel accepted means the task of the configuration exactly if the configuration names a place of
its table, or none. -/
theorem interrupts_kept_iff (tableEq : table.toList = config.descs)
    (made : Kernel.new table config.interruptId machine = .ok fresh) :
    config.Denotes ↔ ∀ place, config.interruptTask = some place → place.toNat < config.tasks.length := by
  have lengthEq : config.tasks.length = n := by
    rw [← table.length_toList, tableEq, KernelConfig.descs, List.length_map]
  have small : n ≤ 128 := Nat.le_trans fresh.fits (by decide)
  rw [lengthEq]
  constructor
  · -- an id that means the configured place has its low eight bits, and names a task, or the kernel would have refused it
    rintro ⟨nobodyIff, indexIff⟩ place configured
    have indexed : config.interruptId.index? = some place.toNat := (indexIff _).mpr (by rw [configured]; rfl)
    have taken := new_interruptTask_eq made
    rw [configured, Option.bind_some] at taken
    by_cases inside : place.toNat % 256 < n
    · rw [KernelConfig.interruptId_of_some configured, TaskId.index?_ofIndex_eq,
        if_pos (Nat.lt_of_lt_of_le inside small)] at indexed
      rwa [Option.some.inj indexed] at inside
    · rw [if_neg inside, Option.map_eq_none_iff] at taken
      have isNobody : config.interruptId = .nobody := (interruptPlace_ok_iff.mp (new_interruptTask made)).2 taken
      cases (nobodyIff.mp isNobody).symm.trans configured
  · -- a place below 128 is its own low byte, and no such byte is nobody's id
    intro inside
    cases configured : config.interruptTask with
    | none =>
      have idEq := KernelConfig.interruptId_of_none configured
      exact ⟨by simp [idEq, configured], by simp [idEq, configured, TaskId.index?_nobody]⟩
    | some place =>
      have idEq := KernelConfig.interruptId_of_some configured
      have indexed := TaskId.index?_ofIndex (Nat.lt_of_lt_of_le (inside place configured) small)
      have somebody : TaskId.ofIndex place.toNat ≠ .nobody := by
        intro same
        rw [same, TaskId.index?_nobody] at indexed
        cases indexed
      exact ⟨by simp [idEq, configured, somebody], by simp [idEq, configured, indexed]⟩

/-- The demo names the first of its tasks, and the id in its table means that task. -/
theorem interrupts_kept_iff_demo :
    Kernel.new Demo.table Demo.config.interruptId ({} : HostMachine) = .ok Demo.fresh ∧ Demo.config.Denotes := by
  refine ⟨Demo.new_table, (interrupts_kept_iff Demo.toList_table Demo.new_table).mpr ?_⟩
  rintro place ⟨⟩
  decide

/-- A configuration that is handed over, of one task and with place 256 for the interrupt task. The kernel on its table
is made, and takes the task at place 0 for the interrupt task. -/
theorem interrupts_redirected : ∃ (config : KernelConfig) (table : Vector TaskDesc 1)
    (fresh : Kernel .eight HostMachine HostContext 1),
    KernelConfig.ofRon? ("(tasks:[(name:\"a\",priority:1,mailbox_permission:0,text:(address:134217728,size:4096)," ++
      "bss:(address:536870912,size:1024),stack:(address:536871936,size:1024))],interrupt_task:Some(256),irqs:[])") =
      some config ∧
    table.toList = config.descs ∧ Kernel.new table config.interruptId {} = .ok fresh ∧
    config.interruptTask = some 256 ∧ fresh.interruptTask = some 0 ∧ ¬config.Denotes := by
  refine ⟨⟨[⟨"a", ⟨1⟩, ⟨0⟩, ⟨134217728, 4096⟩, ⟨536870912, 1024⟩, ⟨536871936, 1024⟩⟩], some 256, []⟩,
    #v[⟨⟨1⟩, ⟨0⟩, ⟨134217728, 4096⟩, ⟨536870912, 1024⟩, ⟨536871936, 1024⟩⟩], _, ?_, rfl, rfl, rfl, rfl, ?_⟩
  · decide +kernel
  · intro denotes
    have kept := (denotes.index_iff 0).mp (by decide)
    cases kept

end Kernel

end CoopKernel
