import CoopKernel.Kernel.Basic

/-! # Scheduling

A scheduling pass readies the interrupt task if an interrupt is pending, idles while nothing is ready,
and chooses the head of the ready list. Waiting, yielding and exiting change the list and end with a
pass.
-/

namespace CoopKernel.Kernel

variable {width : Width} {M S : Type} {n : Nat} [Machine M S]

/-- Make the interrupt task ready if an interrupt is pending and it is not ready yet. -/
def serveInterrupt : KernelM width M S n Unit := do
  let kernel ← get
  match kernel.interruptTask with
  | none => pure ()
  | some place =>
      if Machine.interruptPending kernel.machine && !kernel.ready.contains place then
        modify (·.record (.interruptTaskReady (.ofIndex place)))
        makeReady place

/-- Serve interrupts, and look at the head of the ready list. -/
def poll : KernelM width M S n (Option (Fin n)) := do
  serveInterrupt
  pure (← get).ready.head

def sleep : KernelM width M S n Unit := do
  modify (·.record .idle)
  onMachine Machine.idle

/-- Idle until a task is ready, and answer with the first one. The count bounds how often idling can
come back. -/
def awaitReady : Nat → KernelM width M S n (Fin n)
  | 0 => do
      match ← poll with
      | some place => pure place
      | none => do
          sleep
          throw .endlessIdle
  | left + 1 => do
      match ← poll with
      | some place => pure place
      | none => do
          sleep
          awaitReady left

/-- Choose the task to run. -/
def schedule : KernelM width M S n (Fin n) := do
  let place ← awaitReady (Machine.wakeups (← get).machine)
  modify fun kernel => { kernel with current := some place }
  pure place

/-- Block the caller until there is mail from a sender in a set. Senders the caller does not accept
mail from are left out; if none is left the call is a yield. With such mail in the mailbox already the
caller stays ready. -/
def wait (mask : TaskMask) : KernelM width M S n (Except MailError Unit × Fin n) := do
  let place ← caller
  let wanted := mask ∩ ((← get).desc place).permission
  modify (·.unready place)
  let blocked ←
    if wanted.isEmpty then do
      makeReady place
      pure false
    else do
      modify (·.setWaiting place wanted)
      if (← get).hasMailFrom place wanted then
        makeReady place
        pure false
      else pure true
  modify (·.record (.wait (.ofIndex place) wanted.bits blocked))
  let next ← schedule
  pure (.ok (), next)

/-- Send the caller behind the tasks of its priority. -/
def yieldTask : KernelM width M S n (Fin n) := do
  let place ← caller
  modify (·.record (.yield (.ofIndex place)))
  modify (·.unready place)
  makeReady place
  schedule

/-- Retire the caller. Its waiting mask is emptied, so that no mail can wake it. -/
def exit : KernelM width M S n (Fin n) := do
  let place ← caller
  modify (·.record (.exit (.ofIndex place)))
  modify (·.unready place)
  modify (·.setWaiting place TaskMask.empty)
  schedule

end CoopKernel.Kernel
