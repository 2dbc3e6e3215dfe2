import CoopKernel.Kernel.Call
import CoopKernel.Machine.CortexM.Basic

/-! # Entering and leaving the kernel on a Cortex-M

The supervisor call saves the registers of the task that the saved pointer names, traps, and restores
those of the task it names afterwards, which may be another one. The first task is entered with its
process stack pointer set and its registers loaded.
-/

namespace CoopKernel.CortexM

variable {width : Width} {n : Nat}

abbrev KernelStep (width : Width) (n : Nat) (α : Type) : Type := KernelM width CortexM Context n α

/-- The place of the task that the saved pointer names. -/
def savedPlace (kernel : Kernel width CortexM Context n) : Option (Fin n) := kernel.machine.saved.within n

/-- The registers that the way out of the kernel restores. -/
def restored (kernel : Kernel width CortexM Context n) : Option Context :=
  (savedPlace kernel).map fun place => (kernel.taskAt place).context

/-- Save registers of the interrupted task; the words that are not given keep what they held. -/
def saveRegisters (changes : List (Nat × UInt32)) (kernel : Kernel width CortexM Context n) :
    Kernel width CortexM Context n :=
  match savedPlace kernel with
  | some place => kernel.changeContext place (·.setWords changes)
  | none => kernel

/-- Take a supervisor call, and answer with the registers restored after it. -/
def supervisorCall (changes : List (Nat × UInt32)) : KernelStep width n (Option Context) := do
  modify (saveRegisters changes)
  let _ ← Kernel.trap
  return restored (← get)

/-- How a task is entered for the first time. -/
structure Entry where
  /-- The words loaded into r4 to r11. -/
  registers : List UInt32
  /-- The words come from the context that the saved pointer names. -/
  fromSaved : Bool
deriving DecidableEq, Repr

/-- Drop into user mode in a task: the supervisor call gets the lowest priority, and the saved pointer
and the process stack pointer become the task's. -/
def enter (place : Fin n) : KernelStep width n Entry := do
  let context := ((← get).taskAt place).context
  let id := TaskId.ofIndex place
  modify (·.changeMachine (·.write (.shpr 7) 0xff))
  modify (·.changeMachine (Machine.setCurrent id))
  modify (·.changeMachine (·.write .psp context.stackPointer))
  return ⟨context.lowRegisters, (savedPlace (← get)) == some place⟩

/-- Drop into user mode in the task that an id names, if there is one. -/
def enterId (id : TaskId) : KernelStep width n (Option Entry) := do
  match id.within n with
  | some place => return some (← enter place)
  | none => return none

/-- Bring an application up: start every task, and enter the first one. -/
def boot : KernelStep width n (Except ConfigError Entry) := do
  match ← Kernel.init with
  | .error error => return .error error
  | .ok first => return .ok (← enter first)

end CoopKernel.CortexM
