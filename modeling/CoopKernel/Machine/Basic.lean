import CoopKernel.Task.Desc
import CoopKernel.Mail.Message
import CoopKernel.Mail.Error
import CoopKernel.Fault

/-! # What the kernel needs of a machine

The kernel touches no hardware. It reads a call from the saved registers of a task through
`Registers`, and asks for everything else through `Machine`. Argument and result registers may be the
same. A machine says how often its idling can still come back, and `Machine.wakeups_idle` holds it to
that, so waiting for an interrupt always ends.
-/

namespace CoopKernel

/-- Saved registers of a task that is not running. -/
class Registers (S : Type) where
  /-- Registers of a task that never ran. -/
  blank : S
  /-- The three arguments of a call. -/
  argument : S → Fin 3 → UInt32
  /-- The number of a call. -/
  number : S → UInt32
  /-- Write one of the four results of a call. -/
  setResult : S → Fin 4 → UInt32 → S

namespace Registers

variable {S : Type} [Registers S]

/-- The tasks that a wait call names. -/
def waitMask (saved : S) : TaskMask := ⟨argument saved 0⟩

/-- The id that a word names when it is read as a signed number; one that does not fit a byte names
nobody. -/
def idOfWord (word : UInt32) : TaskId :=
  let value := word.toInt32.toInt
  if -128 ≤ value ∧ value ≤ 127 then ⟨Int8.ofInt value⟩ else TaskId.nobody

/-- The receiver that a send call names. -/
def sendReceiver (saved : S) : TaskId := idOfWord (argument saved 0)

def sendMessage (width : Width) (saved : S) : Message width :=
  Message.ofWords width (argument saved 1) (argument saved 2)

/-- Show a task the status of a result. -/
def setStatus {α : Type} (saved : S) (result : Except MailError α) : S :=
  setResult saved 0 (statusOf result).toUInt32

/-- Show a task the result of a receive call: status, sender, and the two words of the message. A
refusal shows the contents of an unused slot. -/
def setReceived {width : Width} (saved : S) (result : Except MailError (Entry width)) : S :=
  let entry := match result with
    | .ok entry => entry
    | .error _ => Entry.empty
  let shown := setStatus saved result
  let shown := setResult shown 1 entry.sender.val.toInt32.toUInt32
  let shown := setResult shown 2 entry.message.toWords.1
  setResult shown 3 entry.message.toWords.2

end Registers

/-- The machine under a kernel, with saved registers of type `S`. -/
class Machine (M : Type) (S : outParam Type) extends Registers S where
  /-- Whether an interrupt waits for the interrupt task. -/
  interruptPending : M → Bool
  /-- Sleep until something may have changed. -/
  idle : EStateM Fault M Unit
  /-- Make the registers with which a task starts at its entry point, and clear its memory. -/
  buildContext : TaskId → TaskDesc → EStateM Fault M S
  /-- Name the task whose registers are restored on the way out of the kernel. -/
  setCurrent : TaskId → M → M
  /-- Change from the address space of one task to that of another. -/
  switchSpace : TaskId → TaskId → EStateM Fault M Unit
  /-- A bound on how often idling can still come back. -/
  wakeups : M → Nat
  wakeups_idle : ∀ before after, idle before = .ok () after → wakeups after < wakeups before

end CoopKernel
