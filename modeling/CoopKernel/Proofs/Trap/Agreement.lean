import CoopKernel.Proofs.Kernel.Replay
import CoopKernel.Proofs.Trap.Registers

/-! # Traps agree with direct calls

On the host nothing that a trap does around its direct call can fail. So a trap comes back exactly when
the call does, leaves the tasks, the ready list and the choice of the current task as the call leaves
them, and fails as the call fails (`Agrees`). The caller then reads the answer of the call in its
registers. `trap_agrees` says this for every call that registers ask for, and that registers with a
number past the last call change nothing but the status that the caller reads.
-/

namespace CoopKernel

variable {width : Width} {n : Nat}

namespace Kernel

variable {kernel middle : Kernel width HostMachine HostContext n} {place chosen : Fin n}

/-- The reply to a call comes back, and leaves the registers in which the caller reads the answer. -/
theorem reply_comes (syscall : Syscall) (place : Fin n) (result : Answer width n)
    (middle : Kernel width HostMachine HostContext n) :
    ∃ replied, reply syscall place result middle = .ok () replied ∧ replied.core = middle.core ∧
      (syscall ≠ .exit → (replied.taskAt place).context.Reads result) := by
  cases syscall with
  | exit =>
    refine ⟨_, rfl, ?_, fun returns => absurd rfl returns⟩
    exact core_changeContext ..
  | _ =>
    refine ⟨_, rfl, core_changeContext .., fun _ => ?_⟩
    rw [context_changeContext]
    exact HostContext.reads_shownIn ..

/-- Once it is served, a trap comes back, and handing the processor over touches no task. -/
theorem trap_comes (isCaller : kernel.current = some place) (served : serve place kernel = .ok chosen middle) :
    ∃ after, trap kernel = .ok chosen after ∧ after.core = middle.core ∧ after.tasks = middle.tasks := by
  rw [trap_eq isCaller, bind_of_ok served]
  by_cases apart : chosen ≠ place
  · rw [if_pos apart]
    exact ⟨_, rfl, rfl, rfl⟩
  · rw [if_neg apart]
    exact ⟨_, rfl, rfl, rfl⟩

/-- A trap of a task does what a direct call does, and shows the task the answer unless it exited. -/
structure Agrees (kernel : Kernel width HostMachine HostContext n) (place : Fin n) (call : Call width) : Prop where
  answers : ∀ result middle, perform call kernel = .ok result middle →
    ∃ after, trap kernel = .ok (result.chosen?.getD place) after ∧ after.core = middle.core ∧
      (call ≠ .exit → (after.taskAt place).context.Reads result)
  fails : ∀ fault middle, perform call kernel = .error fault middle → trap kernel = .error fault middle

/-- A trap agrees with the direct call that it is decoded to. -/
theorem agrees_of_asked {syscall : Syscall} (isCaller : kernel.current = some place)
    (asks : kernel.asked place = some syscall) : kernel.Agrees place (kernel.encoded place syscall) := by
  constructor
  · intro result middle performed
    obtain ⟨replied, comes, coreEq, reads⟩ := reply_comes syscall place result middle
    have served : serve place kernel = .ok (result.chosen?.getD place) replied := by
      rw [serve_eq asks, bind_of_ok performed, bind_of_ok comes]
      rfl
    obtain ⟨after, trapped, sameCore, sameTasks⟩ := trap_comes isCaller served
    refine ⟨after, trapped, sameCore.trans coreEq, fun returns => ?_⟩
    rw [taskAt, sameTasks, ← taskAt]
    apply reads
    rintro rfl
    exact returns rfl
  · intro fault middle failed
    rw [trap_eq isCaller, bind_of_error]
    rw [serve_eq asks, bind_of_error failed]

/-- A trap of the current task does what the direct call does that its registers ask for. With a number past the last
call nothing changes but the caller's registers, in which it reads that it named a bad parameter. -/
theorem trap_agrees (isCaller : kernel.current = some place) :
    (∃ call, (kernel.taskAt place).context.Asks call ∧ kernel.Agrees place call) ∨
      4 < (kernel.taskAt place).context.number ∧ ∃ after, trap kernel = .ok place after ∧
        after.core = kernel.core ∧
        ofStatus ((after.taskAt place).context.registers.get 0).toInt32 = .error .badParam := by
  cases asks : kernel.asked place with
  | some syscall => exact .inl ⟨_, HostContext.asks_call asks, agrees_of_asked isCaller asks⟩
  | none =>
    right
    refine ⟨Syscall.exceeds_of_ofNumber? asks, ?_⟩
    obtain ⟨after, trapped, coreEq, tasksEq⟩ := trap_comes isCaller (serve_unknown asks)
    refine ⟨after, trapped, coreEq.trans (core_changeContext ..), ?_⟩
    rw [taskAt, tasksEq, ← taskAt, refused, context_changeContext, HostContext.ofStatus_setStatus]
    rfl

/-- The interrupt task of the demo asks for a send to a number that has its own id in the low byte. The trap is a send
to nobody. -/
theorem trap_agrees_demo : ∃ kernel : Kernel .eight HostMachine HostContext 4, kernel.current = some 0 ∧
    (kernel.taskAt 0).context = (HostContext.start (.ofIndex 0) (Demo.table.get 0)).load 2 [0x100, 7, 0] ∧
    kernel.Agrees 0 (.send .nobody 7) := by
  obtain ⟨kernel, isCaller, contextEq⟩ : ∃ kernel : Kernel .eight HostMachine HostContext 4,
      kernel.current = some 0 ∧ (kernel.taskAt 0).context =
        (HostContext.start (.ofIndex 0) (Demo.table.get 0)).load 2 [0x100, 7, 0] :=
    ⟨Demo.started.changeContext 0 (·.load 2 [0x100, 7, 0]), by decide +kernel, by decide +kernel⟩
  have agreed := trap_agrees isCaller
  rw [contextEq] at agreed
  refine ⟨kernel, isCaller, contextEq, ?_⟩
  rcases agreed with ⟨call, asks, agrees⟩ | ⟨large, -⟩
  · cases asks with
    | @send receiver _ names =>
      have nobody : receiver = .nobody := names.exceeds (by decide)
      subst nobody
      exact agrees
    | wait number => exact absurd number (by decide)
    | yield number => exact absurd number (by decide)
    | receive number => exact absurd number (by decide)
    | exit number => exact absurd number (by decide)
  · exact absurd large (by decide)

end Kernel

end CoopKernel
