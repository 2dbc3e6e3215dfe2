import CoopKernel.Machine.CortexM.Frame
import CoopKernel.Machine.CortexM.Lines
import CoopKernel.Machine.CortexM.Registers

/-! # The Cortex-M machine

The processor sleeps until a line becomes pending, tasks live in memory, and every write of a system
register is kept in a log. Interrupts are never taken: the kernel looks at the lines that the
application names. Sleep ends by the next scripted wake-up; a board may also have a standing line that
comes when the script is empty.
-/

namespace CoopKernel

structure CortexM where
  /-- The task table, for the protection regions. -/
  table : List TaskDesc
  /-- The lines that the application's interrupt task serves. -/
  served : List Nat
  memory : Memory
  lines : CortexM.Lines := {}
  /-- The lines that end the coming sleeps. -/
  wakeups : List Nat := []
  /-- The line that ends a sleep when no wake-up is scripted. -/
  standing : Option (Fin CortexM.lineCount) := none
  /-- How often the processor slept. -/
  slept : Nat := 0
  /-- The task whose registers the next way out of the kernel restores. -/
  saved : TaskId := TaskId.nobody
  /-- Register writes, newest first. -/
  log : List CortexM.RegisterWrite := []

namespace CortexM

def write (machine : CortexM) (register : SystemRegister) (value : UInt32) : CortexM :=
  { machine with log := ⟨register, value⟩ :: machine.log }

def writeAll (machine : CortexM) (writes : List RegisterWrite) : CortexM :=
  { machine with log := writes.reverse ++ machine.log }

/-- Register writes, oldest first. -/
def history (machine : CortexM) : List RegisterWrite := machine.log.reverse

def clearLog (machine : CortexM) : CortexM := { machine with log := [] }

/-- The machine for an application: the system control register, which holds a given word, gets the
wake-up bit. -/
def start (table : List TaskDesc) (served : List Nat) (memory : Memory) (control : UInt32)
    (standing : Option (Fin lineCount)) : CortexM :=
  ({ table, served, memory, standing } : CortexM).write .scr (control ||| wakeOnPending)

/-- Whether a line that the application serves is pending. -/
def interruptPending (machine : CortexM) : Bool := machine.served.any machine.lines.isPending

def pend (machine : CortexM) (line : Nat) : CortexM :=
  { machine with lines := machine.lines.set line true }

def unpend (machine : CortexM) (line : Nat) : CortexM :=
  { machine with lines := machine.lines.set line false }

def scriptWakeup (machine : CortexM) (line : Nat) : CortexM :=
  { machine with wakeups := machine.wakeups ++ [line] }

def poke (machine : CortexM) (base length : Nat) (byte : UInt8) : CortexM :=
  { machine with memory := machine.memory.fill base length byte }

def sleep : EStateM Fault CortexM Unit := fun machine =>
  let asleep := { machine with slept := machine.slept + 1 }
  match machine.wakeups, machine.standing with
  | line :: rest, _ => .ok () ({ asleep with wakeups := rest }.pend line)
  | [], none => .error .sleepForever asleep
  | [], some line =>
      if machine.lines.isPending line then .error .endlessIdle asleep else .ok () (asleep.pend line)

/-- One if the standing line can still become pending, else zero. -/
def standingLeft (machine : CortexM) : Nat :=
  match machine.standing with
  | some line => if machine.lines.isPending line then 0 else 1
  | none => 0

/-- A bound on how often sleep can still end. -/
def wakeupsLeft (machine : CortexM) : Nat := machine.wakeups.length + machine.standingLeft

theorem isPending_pend (machine : CortexM) (line other : Nat) :
    (machine.pend line).lines.isPending other =
      (decide (line = other ∧ line < lineCount) || machine.lines.isPending other) := by
  by_cases inside : line < lineCount
  · by_cases same : line = other
    · subst same
      simp [pend, Lines.isPending_set _ _ _ _ inside, inside]
    · simp [pend, Lines.isPending_set _ _ _ _ inside, same]
  · simp [pend, Lines.set, inside]

theorem standingLeft_pend (machine : CortexM) (line : Nat) :
    (machine.pend line).standingLeft ≤ machine.standingLeft := by
  cases standing : machine.standing with
  | none => simp [standingLeft, pend, standing]
  | some there =>
      have pending := isPending_pend machine line there
      simp only [pend] at pending
      simp only [standingLeft, pend, standing, pending]
      cases machine.lines.isPending there <;> simp
      split <;> omega

theorem wakeupsLeft_sleep (before after : CortexM) (woke : sleep before = .ok () after) :
    after.wakeupsLeft < before.wakeupsLeft := by
  unfold sleep at woke
  split at woke
  · next line rest scripted =>
    cases woke
    have bound := standingLeft_pend { before with slept := before.slept + 1, wakeups := rest } line
    simp only [wakeupsLeft, scripted, List.length_cons]
    have same : ({ before with slept := before.slept + 1, wakeups := rest } : CortexM).standingLeft =
      before.standingLeft := rfl
    rw [same] at bound
    simp only [pend] at bound ⊢
    omega
  · cases woke
  · next line scripted standing =>
    split at woke
    · cases woke
    · next quiet =>
      cases woke
      have pending := isPending_pend { before with slept := before.slept + 1 } line line
      simp only [pend] at pending
      simp [wakeupsLeft, standingLeft, pend, scripted, standing, pending, quiet]

/-- Build the context of a task: its writable sections are cleared, and its frame is laid. A stack
too small for the frame is found before anything is written. -/
def buildContext (id : TaskId) (desc : TaskDesc) : EStateM Fault CortexM Context := fun machine =>
  match frameAddress desc.stack with
  | .error fault => .error fault machine
  | .ok frame => .ok (startContext frame) { machine with memory := layFrame machine.memory id desc frame }

/-- Program the protection regions of a task: the unit is off meanwhile, and stays off if a section
cannot be a region. -/
def protect (desc : TaskDesc) : EStateM Fault CortexM Unit := fun machine =>
  let off := machine.write .mpuCtrl 0
  match (taskRegions desc).mapM fun region => regionWords region.1 region.2 with
  | .error fault => .error fault off
  | .ok words => .ok () ((off.writeAll (regionWrites 0 words)).write .mpuCtrl protectionOn)

/-- Change the address space to that of a task of the table. -/
def switchSpace (next : TaskId) : EStateM Fault CortexM Unit := fun machine =>
  match next.index?.bind (machine.table[·]?) with
  | some desc => protect desc machine
  | none => .ok () machine

instance : Machine CortexM Context where
  interruptPending := interruptPending
  idle := sleep
  buildContext := buildContext
  setCurrent id machine := { machine with saved := id }
  switchSpace _ next := switchSpace next
  wakeups := wakeupsLeft
  wakeups_idle := wakeupsLeft_sleep

end CortexM

end CoopKernel
