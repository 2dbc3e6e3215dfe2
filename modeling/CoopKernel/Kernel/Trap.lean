import CoopKernel.Kernel.Lifecycle
import CoopKernel.Kernel.Mail

/-! # Traps

A task asks for a call through its saved registers: a number and up to three arguments. The trap does
the call for the current task, writes the results back, and switches the machine if another task is to
run. A number that stands for no call is answered with the status of a bad id.
-/

namespace CoopKernel

/-- The calls that a trap can ask for. -/
inductive Syscall where
  | wait
  | yield
  | send
  | receive
  | exit
deriving DecidableEq, Repr, Inhabited

namespace Syscall

def all : List Syscall := [wait, yield, send, receive, exit]

def number : Syscall → UInt32
  | wait => 0
  | yield => 1
  | send => 2
  | receive => 3
  | exit => 4

def ofNumber? (number : UInt32) : Option Syscall := all.find? (·.number == number)

def name : Syscall → String
  | wait => "Wait"
  | yield => "Yield"
  | send => "MbxSend"
  | receive => "MbxRecv"
  | exit => "Exit"

end Syscall

namespace Kernel

variable {width : Width} {M S : Type} {n : Nat} [Machine M S]

/-- Do the call that the caller's registers ask for, write its results back, and answer with the task
to run. -/
def serve (place : Fin n) : KernelM width M S n (Fin n) := do
  let saved := ((← get).taskAt place).context
  match Syscall.ofNumber? (Registers.number saved) with
  | some .wait => do
      let (result, next) ← wait (Registers.waitMask saved)
      modify (·.changeContext place (Registers.setStatus · result))
      pure next
  | some .yield => do
      let next ← yieldTask
      modify (·.changeContext place (Registers.setStatus · (.ok () : Except MailError Unit)))
      pure next
  | some .send => do
      let result ← send (Registers.sendReceiver saved) (Registers.sendMessage width saved)
      modify (·.changeContext place (Registers.setStatus · result))
      pure place
  | some .receive => do
      let result ← receive
      modify (·.changeContext place (Registers.setReceived · result))
      pure place
  | some .exit => do
      let next ← exit
      rebuildContext place
      pure next
  | none => do
      modify (·.record (.badSyscall (.ofIndex place) (Registers.number saved)))
      modify (·.changeContext place (Registers.setStatus · (.error .badParam : Except MailError Unit)))
      pure place

def trap : KernelM width M S n (Fin n) := do
  match (← get).current with
  | none => throw .trapWithoutCaller
  | some place => do
      let next ← serve place
      if next ≠ place then switchTo (.ofIndex place) next
      pure next

end Kernel

end CoopKernel
