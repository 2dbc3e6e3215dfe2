import CoopKernel.Kernel.Basic

/-! # Mail between tasks

The caller sends to one task or to everyone, and receives by its own waiting mask. A refused
operation changes nothing but the trace.
-/

namespace CoopKernel.Kernel

variable {width : Width} {M S : Type} {n : Nat}

/-- Post a message of a sender to one task, which becomes ready if it waits for that sender. -/
def deliver (sender receiver : Fin n) (message : Message width) :
    KernelM width M S n (Except MailError Unit) := do
  let kernel ← get
  let task := kernel.taskAt receiver
  let id := TaskId.ofIndex sender
  if task.desc.permission.contains id then
    match task.mailbox.push ⟨id, message⟩ with
    | .error error => pure (.error error)
    | .ok box => do
        modify (·.setMailbox receiver box)
        if task.waiting.contains id then makeReady receiver
        pure (.ok ())
  else pure (.error .denied)

/-- The result of a broadcast so far, after one more delivery: a success stays, a full mailbox counts
only before the first success, and other refusals do not count. -/
def broadcastResult (sofar delivery : Except MailError Unit) : Except MailError Unit :=
  match sofar, delivery with
  | _, .ok () => .ok ()
  | .error _, .error .fifoFull => .error .fifoFull
  | _, .error _ => sofar

/-- Post a message to the places of a list in order, the sender's own left out. -/
def broadcast (sender : Fin n) (message : Message width) :
    Except MailError Unit → List (Fin n) → KernelM width M S n (Except MailError Unit)
  | sofar, [] => pure sofar
  | sofar, receiver :: rest =>
      if receiver = sender then broadcast sender message sofar rest
      else do
        let delivery ← deliver sender receiver message
        broadcast sender message (broadcastResult sofar delivery) rest

/-- Send a message to a task, or to everyone else who accepts it. -/
def send (receiver : TaskId) (message : Message width) :
    KernelM width M S n (Except MailError Unit) := do
  let sender ← caller
  let result ←
    if receiver = TaskId.everyone then broadcast sender message (.error .denied) (List.finRange n)
    else match receiver.within n with
      | some place => deliver sender place message
      | none => pure (.error .badParam)
  modify (·.record (.send (.ofIndex sender) receiver (statusOf result)))
  pure result

/-- Take the oldest message from a sender that the caller waits for. -/
def receive : KernelM width M S n (Except MailError (Entry width)) := do
  let place ← caller
  let task := (← get).taskAt place
  match task.mailbox.take task.waiting with
  | .ok (entry, box) => do
      modify (·.setMailbox place box)
      modify (·.record (.receive (.ofIndex place) entry.sender success))
      pure (.ok entry)
  | .error error => do
      modify (·.record (.receive (.ofIndex place) TaskId.nobody error.code))
      pure (.error error)

end CoopKernel.Kernel
