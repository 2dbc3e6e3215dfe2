import CoopKernel.Machine.Basic

/-! # The host stand-in

A machine that touches nothing: it writes down what the kernel asked of it, and interrupts come when
its script says so.
-/

namespace CoopKernel

/-- Saved registers on the host: four for arguments and results, the number of a call, and where the
task goes on. -/
structure HostContext where
  registers : Vector UInt32 4 := .replicate 4 0
  number : UInt32 := 0
  counter : UInt32 := 0
  stack : UInt32 := 0
deriving DecidableEq, Repr

namespace HostContext

instance : Inhabited HostContext := ⟨{}⟩

/-- Load a call as a task would before a trap: its number, and as many registers as there are
arguments. -/
def load (saved : HostContext) (number : UInt32) (arguments : List UInt32) : HostContext :=
  { saved with
    number := number
    registers := .ofFn fun i => arguments[i.val]?.getD (saved.registers.get i) }

instance : Registers HostContext where
  blank := {}
  argument saved i := saved.registers.get (i.castAdd 1)
  number saved := saved.number
  setResult saved i word := { saved with registers := saved.registers.set i word i.isLt }

/-- The context with which a task starts: at its code, on top of its stack, with its own id in the
first register. -/
def start (id : TaskId) (desc : TaskDesc) : HostContext where
  registers := #v[id.val.toInt32.toUInt32, 0, 0, 0]
  counter := desc.text.address
  stack := desc.stack.limit

end HostContext

/-- What the host stand-in knows and has written down. -/
structure HostMachine where
  /-- An interrupt waits. -/
  pending : Bool := false
  /-- How many sleeps will end with an interrupt. -/
  scheduled : Nat := 0
  /-- How often the kernel slept. -/
  idled : Nat := 0
  /-- The tasks whose contexts were made, oldest first. -/
  contexts : List TaskId := []
  /-- The changes of address space, oldest first. -/
  switches : List (TaskId × TaskId) := []
  /-- The task named last as the one to restore. -/
  current : TaskId := TaskId.nobody
deriving DecidableEq, Repr, Inhabited

namespace HostMachine

def raise (machine : HostMachine) : HostMachine := { machine with pending := true }

/-- The device is served. -/
def acknowledge (machine : HostMachine) : HostMachine := { machine with pending := false }

/-- One more sleep will end with an interrupt. -/
def interruptDuringIdle (machine : HostMachine) : HostMachine :=
  { machine with scheduled := machine.scheduled + 1 }

/-- Sleep once. With no interrupt to come the sleep would not end. -/
def idle : EStateM Fault HostMachine Unit := fun machine =>
  let asleep := { machine with idled := machine.idled + 1 }
  match machine.scheduled with
  | 0 => .error .idleForever asleep
  | left + 1 => .ok () { asleep with scheduled := left, pending := true }

theorem scheduled_idle (before after : HostMachine) (woke : idle before = .ok () after) :
    after.scheduled < before.scheduled := by
  unfold idle at woke
  split at woke
  · cases woke
  · next left isLeft =>
    cases woke
    simp [isLeft]

instance : Machine HostMachine HostContext where
  interruptPending machine := machine.pending
  idle := idle
  buildContext id desc := fun machine =>
    .ok (HostContext.start id desc) { machine with contexts := machine.contexts ++ [id] }
  setCurrent id machine := { machine with current := id }
  switchSpace prev next := fun machine =>
    .ok () { machine with switches := machine.switches ++ [(prev, next)] }
  wakeups machine := machine.scheduled
  wakeups_idle := scheduled_idle

end HostMachine

end CoopKernel
