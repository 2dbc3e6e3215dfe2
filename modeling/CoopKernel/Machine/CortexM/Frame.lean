import CoopKernel.Machine.CortexM.Context
import CoopKernel.Machine.Memory

/-! # Initial frames

A task starts by returning from an exception that never happened: the frame such a return takes off
the stack is laid at the top of the task's stack section, below the last multiple of eight. The section
must have room for it.
-/

namespace CoopKernel.CortexM

/-- How many bytes a frame has: eight words of registers, sixteen of floating point, and two more. -/
def frameBytes : UInt32 := 104

/-- The status word of a task that starts; it only says that the code is Thumb code. -/
def initialStatus : UInt32 := 0x01000000

/-- The exception return word: to a task, on its own stack, with a floating point frame. -/
def exceptionReturn : UInt32 := 0xffffffed

/-- The words of the frame of a task that starts: its id in r0, a link register that traps, the entry
point with the Thumb bit, and zeros. -/
def frameWords (id : TaskId) (desc : TaskDesc) : List UInt32 :=
  [id.val.toInt32.toUInt32, 0, 0, 0, 0, 0xffffffff, desc.text.address ||| 1, initialStatus]
    ++ List.replicate 18 0

/-- The address one past the frame: the end of the stack, rounded down to a multiple of eight. -/
def frameLimit (stack : Section) : UInt32 := stack.limit &&& 0xfffffff8

/-- The address of the frame in a stack section. The comparison that finds the section too small adds
the frame's size to its start, which may go past the end of the address space. -/
def frameAddress (stack : Section) : Except Fault UInt32 :=
  if UInt32.size ≤ stack.address.toNat + frameBytes.toNat then .error .addressOverflow
  else if frameLimit stack < stack.address + frameBytes then .error .sectionCheck
  else .ok (frameLimit stack - frameBytes)

/-- The registers with which a task starts whose frame is at an address. -/
def startContext (frame : UInt32) : Context :=
  ({} : Context).setWords [(stackPointerWord, frame), (exceptionReturnWord, exceptionReturn)]

/-- The memory after the data and stack sections were cleared and the frame was laid. -/
def layFrame (memory : Memory) (id : TaskId) (desc : TaskDesc) (frame : UInt32) : Memory :=
  ((memory.fill desc.bss.address.toNat desc.bss.size.toNat 0).fill
    desc.stack.address.toNat desc.stack.size.toNat 0).writeWords frame.toNat (frameWords id desc)

end CoopKernel.CortexM
