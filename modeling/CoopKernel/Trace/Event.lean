import CoopKernel.Task.Id
import CoopKernel.Trace.Ring

/-! # Events of the kernel

What the kernel writes into its trace. Every kind of event is recorded in one place of the program, so
the line of a record is the number of its kind.
-/

namespace CoopKernel

/-- Something the kernel did. -/
inductive Event where
  | none
  | init (first : TaskId)
  | wait (task : TaskId) (mask : UInt32) (blocked : Bool)
  | yield (task : TaskId)
  | exit (task : TaskId)
  | send (sender receiver : TaskId) (status : Int32)
  | receive (task sender : TaskId) (status : Int32)
  | idle
  | interruptTaskReady (task : TaskId)
  | switch (prev next : TaskId)
  | restart (task : TaskId)
  | badSyscall (task : TaskId) (number : UInt32)
deriving DecidableEq, Repr, Inhabited

namespace Event

/-- The line that records events of this kind. -/
def line : Event → UInt16
  | none => 0
  | init _ => 1
  | wait _ _ _ => 2
  | yield _ => 3
  | exit _ => 4
  | send _ _ _ => 5
  | receive _ _ _ => 6
  | idle => 7
  | interruptTaskReady _ => 8
  | switch _ _ => 9
  | restart _ => 10
  | badSyscall _ _ => 11

end Event

def traceDepth : Nat := 32

abbrev KernelTrace : Type := Trace.Ring Event traceDepth

namespace KernelTrace

def new : KernelTrace := Trace.Ring.new Event.none

def record (trace : KernelTrace) (event : Event) : KernelTrace :=
  Trace.Ring.record trace (by decide) event.line event

end KernelTrace

end CoopKernel
