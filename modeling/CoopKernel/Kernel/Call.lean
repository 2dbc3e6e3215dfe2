import CoopKernel.Kernel.Trap
import CoopKernel.Machine.Host

/-! # Calls as data

A call on the kernel and its answer as values, so that a history of calls can be written down, run and
reasoned about. On the host a task's registers can also be loaded directly, as a task does before a
trap.
-/

namespace CoopKernel

inductive Call (width : Width) where
  | init
  | wait (mask : TaskMask)
  | yield
  | exit
  | schedule
  | send (receiver : TaskId) (message : Message width)
  | receive
  | restart (id : TaskId)
  | trap
deriving DecidableEq, Repr, Inhabited

inductive Answer (width : Width) (n : Nat) where
  | booted (result : Except ConfigError (Fin n))
  | waited (result : Except MailError Unit) (next : Fin n)
  | next (place : Fin n)
  | sent (result : Except MailError Unit)
  | received (result : Except MailError (Entry width))
  | restarted (result : Except MailError (Fin n))

namespace Kernel

variable {width : Width} {M S : Type} {n : Nat}

def perform [Machine M S] : Call width → KernelM width M S n (Answer width n)
  | .init => return .booted (← init)
  | .wait mask => do
      let (result, next) ← wait mask
      return .waited result next
  | .yield => return .next (← yieldTask)
  | .exit => return .next (← exit)
  | .schedule => return .next (← schedule)
  | .send receiver message => return .sent (← send receiver message)
  | .receive => return .received (← receive)
  | .restart id => return .restarted (← restart id)
  | .trap => return .next (← trap)

/-- Load a call into the registers of the task that an id names; false if it names none. -/
def load (id : TaskId) (number : UInt32) (arguments : List UInt32) :
    KernelM width M HostContext n Bool := do
  match id.within n with
  | none => pure false
  | some place => do
      modify (·.changeContext place (·.load number arguments))
      pure true

/-- Load a call into the registers of the task that runs, and trap. -/
def syscall [Machine M HostContext] (number : UInt32) (arguments : List UInt32) :
    KernelM width M HostContext n (Fin n) := do
  let _ ← load (.ofPlace? (← get).current) number arguments
  trap

end Kernel

end CoopKernel
