import CoopKernel.Proofs.Trap.Handover
import CoopKernel.Proofs.Trap.Isolation

/-! # Supervisor calls

A task comes into the kernel by a supervisor call. Its registers are saved where the saved pointer points, the call that
they ask for is served, and then registers are restored from where the pointer points. While the machine runs the
current task (`Installed`) that is first the caller and then the task which the trap chose, so a call saves into the
caller only, and restores the current task (`Installed.serves`). A board that comes up enters its first task in this
state (`boot_installs`), and supervisor calls keep it, whatever happens on the board in between (`Session.keeps`). So a
task to which the processor returns finds its registers as it left them (`Session.resumes`).
-/

namespace CoopKernel

namespace CortexM

variable {width : Width} {n : Nat} {table : Vector TaskDesc n} {before : ProtectionUnit} {place : Fin n}
  {kernel after : Kernel width CortexM Context n} {changes : List (Nat × UInt32)} {answer : Option Context}

/-! ## Saving and restoring -/

theorem saveRegisters_of_saved (saved : savedPlace kernel = some place) (changes : List (Nat × UInt32)) :
    saveRegisters changes kernel = kernel.changeContext place (·.setWords changes) := by
  rw [saveRegisters, saved]

/-- A supervisor call comes back if its trap does, with the registers that are restored then. -/
theorem supervisorCall_ok_iff : supervisorCall changes kernel = .ok answer after ↔
    (∃ chosen, Kernel.trap (saveRegisters changes kernel) = .ok chosen after) ∧ answer = restored after := by
  simp only [supervisorCall, bind_ok_iff, modify_ok_iff, get_ok_iff, pure_ok_iff]
  constructor
  · rintro ⟨_, _, rfl, chosen, _, trapped, _, _, ⟨rfl, rfl⟩, rfl, rfl⟩
    exact ⟨⟨chosen, trapped⟩, rfl⟩
  · rintro ⟨⟨chosen, trapped⟩, rfl⟩
    exact ⟨⟨⟩, _, rfl, chosen, after, trapped, after, after, ⟨rfl, rfl⟩, rfl, rfl⟩

/-- What a supervisor call of a task does, with the task that runs afterwards. -/
structure Serves (kernel : Kernel width CortexM Context n) (changes : List (Nat × UInt32)) (place chosen : Fin n)
    (answer : Option Context) (after : Kernel width CortexM Context n) : Prop where
  isCaller : kernel.current = some place
  /-- What is saved goes into the record of the caller, and is what the trap finds there. -/
  trapped : Kernel.trap (kernel.changeContext place (·.setWords changes)) = .ok chosen after
  isNext : after.current = some chosen
  answer_eq : answer = some (after.taskAt chosen).context
  untouched : ∀ other, other ≠ place → (after.taskAt other).context = (kernel.taskAt other).context

/-- A supervisor call on a machine that runs the current task serves that task, and the machine then runs the one that
is current. -/
theorem Installed.serves (installed : Installed table before place kernel) (orderly : kernel.Orderly)
    (came : supervisorCall changes kernel = .ok answer after) :
    ∃ chosen, Serves kernel changes place chosen answer after ∧ after.Orderly ∧ Installed table before chosen after := by
  obtain ⟨⟨chosen, trapped⟩, answerEq⟩ := supervisorCall_ok_iff.mp came
  rw [saveRegisters_of_saved installed.saved_eq] at trapped
  have savedOrderly : (kernel.changeContext place (·.setWords changes)).Orderly :=
    orderly.of_core (Kernel.core_changeContext ..)
  have saved : Installed table before place (kernel.changeContext place (·.setWords changes)) :=
    installed.stays rfl rfl
  obtain ⟨isNext, handsOver⟩ :=
    Kernel.trap_handsOver blind_handover savedOrderly.bootable savedOrderly.formed trapped
  obtain ⟨next, renewed⟩ := saved.handsOver handsOver
  cases renewed.current_eq.symm.trans isNext
  refine ⟨chosen, ⟨installed.current_eq, trapped, isNext, answerEq.trans renewed.restored_eq, ?_⟩, ?_, renewed⟩
  · intro other apart
    rw [Kernel.trap_context saved.current_eq apart trapped, Kernel.taskAt_changeContext_of_ne apart]
  · exact savedOrderly.moment (Moment.came_of_trap trapped)

/-! ## Entering the first task -/

/-- A kernel that has dropped into a task. -/
def entered (kernel : Kernel width CortexM Context n) (place : Fin n) : Kernel width CortexM Context n :=
  kernel.changeMachine fun machine =>
    (Machine.setCurrent (.ofIndex place) (machine.write (.shpr 7) 0xff)).write .psp
      (kernel.taskAt place).context.stackPointer

theorem savedPlace_entered (kernel : Kernel width CortexM Context n) (place : Fin n) :
    savedPlace (entered kernel place) = some place :=
  TaskId.within_ofIndex (Nat.le_trans kernel.fits (by decide)) place

/-- The registers that are loaded are the task's, and are those that the saved pointer names. -/
theorem enter_eq (kernel : Kernel width CortexM Context n) (place : Fin n) :
    enter place kernel = .ok ⟨(kernel.taskAt place).context.lowRegisters, true⟩ (entered kernel place) := by
  have came : enter place kernel = .ok ⟨(kernel.taskAt place).context.lowRegisters,
      savedPlace (entered kernel place) == some place⟩ (entered kernel place) := rfl
  rw [came, savedPlace_entered, beq_self_eq_true]

/-- The registers written on the way into a task are none of the protection unit. -/
theorem protection_entered (kernel : Kernel width CortexM Context n) (place : Fin n) :
    (entered kernel place).machine.protection = kernel.machine.protection := by
  have lowered : (Machine.setCurrent (.ofIndex place) (kernel.machine.write (.shpr 7) 0xff)).protection =
      (kernel.machine.write (.shpr 7) 0xff).protection := rfl
  rw [entered, Kernel.changeMachine, protection_write, lowered, protection_write]
  rfl

theorem Installed.of_entered (installed : Installed table before place kernel) :
    Installed table before place (entered kernel place) := by
  have saved := savedPlace_entered kernel place
  constructor
  · exact installed.current_eq
  · exact saved
  · rw [restored, saved]
    rfl
  · rw [protection_entered]
    exact installed.programmed
  · exact installed.table_eq

/-- A board that comes up runs its first task. -/
theorem boot_installs {interruptTask : TaskId} {machine : CortexM} {fresh start : Kernel width CortexM Context n}
    {entry : Entry} (tableEq : machine.table = table.toList)
    (made : Kernel.new table interruptTask machine = .ok fresh) (booted : boot fresh = .ok (.ok entry) start) :
    start.Orderly ∧ ∃ first, Installed table machine.protection first start ∧
      entry = ⟨(start.taskAt first).context.lowRegisters, true⟩ := by
  obtain ⟨result, started, began, booted⟩ := bind_ok_iff.mp booted
  cases result with
  | error error =>
    cases booted
  | ok first =>
    obtain ⟨_, _, came, answered⟩ := bind_ok_iff.mp booted
    cases (enter_eq started first).symm.trans came
    cases answered
    have orderly : started.Orderly := Kernel.Booted.orderly ⟨table, interruptTask, machine, fresh, first, made, began⟩
    obtain ⟨currentEq, unseen, viewEq, switched⟩ := Kernel.init_handsOver blind_handover began
    rw [Kernel.new_machine made] at viewEq
    exact ⟨orderly.of_core rfl, first, (installed_of_switched tableEq viewEq currentEq switched).of_entered, rfl⟩

/-! ## Sessions -/

/-- What a kernel goes through once a task runs, with the tasks that make supervisor calls, one after the other. In
between the board changes in ways that do not show in the hand-over. -/
inductive Session (start : Kernel width CortexM Context n) : List (Fin n) → Kernel width CortexM Context n → Prop
  | start : Session start [] start
  | call {callers : List (Fin n)} {kernel after : Kernel width CortexM Context n} {place : Fin n}
      {changes : List (Nat × UInt32)} {answer : Option Context} (session : Session start callers kernel)
      (isCaller : kernel.current = some place) (came : supervisorCall changes kernel = .ok answer after) :
      Session start (callers ++ [place]) after
  | outside {callers : List (Fin n)} {kernel : Kernel width CortexM Context n} {change : CortexM → CortexM}
      (session : Session start callers kernel) (unseen : ∀ machine, (change machine).handover = machine.handover) :
      Session start callers (kernel.changeMachine change)

namespace Session

variable {start : Kernel width CortexM Context n} {first : Fin n} {callers : List (Fin n)}

/-- All along a session the machine runs the current task. -/
theorem keeps (session : Session start callers kernel) (orderly : start.Orderly)
    (installed : Installed table before first start) :
    kernel.Orderly ∧ ∃ place, Installed table before place kernel := by
  induction session with
  | start => exact ⟨orderly, first, installed⟩
  | call _ _ came ih =>
    obtain ⟨orderly, place, installed⟩ := ih
    obtain ⟨chosen, -, orderlyAfter, renewed⟩ := installed.serves orderly came
    exact ⟨orderlyAfter, chosen, renewed⟩
  | outside _ unseen ih =>
    obtain ⟨orderly, place, installed⟩ := ih
    exact ⟨orderly.of_core rfl, place, installed.stays rfl (unseen _)⟩

/-- The saved registers of a task that makes no supervisor call are left alone. -/
theorem context_eq (session : Session start callers kernel) (orderly : start.Orderly)
    (installed : Installed table before first start) {other : Fin n} (silent : other ∉ callers) :
    (kernel.taskAt other).context = (start.taskAt other).context := by
  induction session with
  | start => rfl
  | @call callers _ _ place _ _ session isCaller came ih =>
    obtain ⟨orderlyNow, current, installedNow⟩ := session.keeps orderly installed
    cases isCaller.symm.trans installedNow.current_eq
    obtain ⟨early, apart⟩ := not_or.mp (silent ∘ List.mem_append.mpr)
    obtain ⟨chosen, serves, -, -⟩ := installedNow.serves orderlyNow came
    rw [serves.untouched other (List.ne_of_not_mem_cons apart)]
    exact ih early
  | outside _ _ ih => exact ih silent

/-- A task to which the processor returns finds its registers as they were, if it made no supervisor call since. -/
theorem resumes (session : Session start callers kernel) (orderly : start.Orderly)
    (installed : Installed table before first start) {returning : Fin n} (silent : returning ∉ callers)
    (elsewhere : kernel.current ≠ some returning) (came : supervisorCall changes kernel = .ok answer after)
    (isNext : after.current = some returning) : answer = some (start.taskAt returning).context := by
  obtain ⟨orderlyNow, place, installedNow⟩ := session.keeps orderly installed
  obtain ⟨chosen, serves, -, -⟩ := installedNow.serves orderlyNow came
  cases serves.isNext.symm.trans isNext
  have apart : returning ≠ place := fun same => elsewhere (same ▸ installedNow.current_eq)
  rw [serves.answer_eq, serves.untouched returning apart, session.context_eq orderly installed silent]

/-- From the time when a board came up, every supervisor call serves the current task and hands the processor to the
task that it chooses. -/
theorem serves_of_boot {interruptTask : TaskId} {machine : CortexM} {fresh : Kernel width CortexM Context n} {entry : Entry}
    (tableEq : machine.table = table.toList) (made : Kernel.new table interruptTask machine = .ok fresh)
    (booted : boot fresh = .ok (.ok entry) start) (session : Session start callers kernel)
    (came : supervisorCall changes kernel = .ok answer after) :
    ∃ place chosen, Serves kernel changes place chosen answer after ∧
      Installed table machine.protection chosen after := by
  obtain ⟨orderly, first, installed, -⟩ := boot_installs tableEq made booted
  obtain ⟨orderlyNow, place, installedNow⟩ := session.keeps orderly installed
  obtain ⟨chosen, serves, -, renewed⟩ := installedNow.serves orderlyNow came
  exact ⟨place, chosen, serves, renewed⟩

/-- On the demo's board the interrupt task is entered, and its exit brings the timer. -/
example : ((Kernel.new Demo.table (.ofIndex 0) Demo.board).toOption.any fun fresh : Kernel .eight CortexM Context 4 =>
    match (boot >>= fun _ => supervisorCall [(7, 4)]) fresh with
    | .ok answer after => after.current == some 1 && answer == some (after.taskAt 1).context
    | .error _ _ => false) = true := by
  decide +kernel

end Session

end CortexM

/-! ## Supervisor calls as traps -/

namespace TrapRun

variable {width : Width} {n : Nat} {table : Vector TaskDesc n} {machine : CortexM} {first : Fin n}
  {kernel after : Kernel width CortexM CortexM.Context n}
  {history : List (Moment width CortexM CortexM.Context n)}

/-- In a run of traps a supervisor call is two moments: the registers of the current task are loaded, and it traps. -/
theorem supervisorCall {changes : List (Nat × UInt32)} {answer : Option CortexM.Context}
    (trapRun : TrapRun CortexM.handover table machine first history kernel) (tableEq : machine.table = table.toList)
    (came : CortexM.supervisorCall changes kernel = .ok answer after) :
    ∃ place chosen, CortexM.Serves kernel changes place chosen answer after ∧
      TrapRun CortexM.handover table machine first
        (history ++ [⟨kernel, .load place (·.setWords changes), none, kernel.changeContext place (·.setWords changes)⟩] ++
          [⟨kernel.changeContext place (·.setWords changes), .call .trap, some (.next chosen), after⟩]) after := by
  obtain ⟨place, installed⟩ := trapRun.installed_board tableEq
  obtain ⟨⟨interruptTask, fresh, start, made, began, run⟩, around⟩ := trapRun
  have orderly : kernel.Orderly :=
    run.orderly (Kernel.Booted.orderly ⟨table, interruptTask, machine, fresh, first, made, began⟩)
  obtain ⟨chosen, serves, -, -⟩ := installed.serves orderly came
  have loaded := run.step (Moment.came_load kernel place (·.setWords changes))
  have trapped := loaded.step (Moment.came_of_trap serves.trapped)
  refine ⟨place, chosen, serves, ⟨interruptTask, fresh, start, made, began, trapped⟩, fun moment member => ?_⟩
  rcases List.mem_append.mp member with member | last
  · rcases List.mem_append.mp member with early | load
    · exact around moment early
    · cases List.mem_singleton.mp load
      trivial
  · cases List.mem_singleton.mp last
    rfl

end TrapRun

end CoopKernel
