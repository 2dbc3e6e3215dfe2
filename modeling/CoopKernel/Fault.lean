/-! # Faults

A fault stops the program: no answer follows it. Each cause has one message. The last two never leave
a call of the kernel on a table that boots; they keep every definition total.
-/

namespace CoopKernel

/-- Why the program stopped. -/
inductive Fault where
  /-- A task's call came while no task was running. -/
  | noCaller
  /-- A trap came while no task was running. -/
  | trapWithoutCaller
  /-- The host stand-in would idle with no interrupt to come. -/
  | idleForever
  /-- The processor would sleep with nothing to wake it. -/
  | sleepForever
  /-- A ready list was given the id of a place past its table. -/
  | outsideTable
  /-- A trace ring without slots was given an event. -/
  | noTraceSlot
  /-- A section cannot hold what has to go there. -/
  | sectionCheck
  /-- An address went past the end of the address space. -/
  | addressOverflow
  /-- The links of a ready list run in a circle, and no task on it gives way. -/
  | endlessList
  /-- Idling came back more often than the machine allows. -/
  | endlessIdle
deriving DecidableEq, Repr, Inhabited

namespace Fault

def message : Fault → String
  | noCaller => "no current task"
  | trapWithoutCaller => "syscall with no current task"
  | idleForever => "idle with no interrupt scheduled"
  | sleepForever => "wfe with nothing to wake it"
  | outsideTable => "assertion failed: index < tasks.len()"
  | noTraceSlot => "index out of bounds: the len is 0 but the index is 0"
  | sectionCheck => "Assertion failed!"
  | addressOverflow => "attempt to add with overflow"
  | endlessList => "ready list runs in a circle"
  | endlessIdle => "idle without end"

end Fault

end CoopKernel
