import CoopKernel.Task.Desc
import CoopKernel.Fault

/-! # System registers and protection regions

The kernel writes a few registers of the system. The memory protection unit has numbered regions: the
region number says which region the next base and attribute words go to. `regionWords` gives these
words for a section of a task.
-/

namespace CoopKernel.CortexM

inductive SystemRegister where
  /-- System control. -/
  | scr
  /-- Priorities of the system handlers, one byte each. -/
  | shpr (index : Nat)
  /-- Control of the protection unit. -/
  | mpuCtrl
  /-- Number of the region that is written next. -/
  | mpuRnr
  /-- Base address of a region. -/
  | mpuRbar
  /-- Attributes and size of a region. -/
  | mpuRasr
  /-- Process stack pointer. -/
  | psp
deriving DecidableEq, Repr, Inhabited

namespace SystemRegister

def name : SystemRegister → String
  | scr => "SCR"
  | shpr index => "SHPR" ++ Numeral.decimal index
  | mpuCtrl => "MPU_CTRL"
  | mpuRnr => "MPU_RNR"
  | mpuRbar => "MPU_RBAR"
  | mpuRasr => "MPU_RASR"
  | psp => "PSP"

end SystemRegister

structure RegisterWrite where
  register : SystemRegister
  value : UInt32
deriving DecidableEq, Repr, Inhabited

/-- The bit of the system control register by which a line that becomes pending ends a sleep. -/
def wakeOnPending : UInt32 := 16

/-- The control word of a protection unit that is on, with the default map for the kernel. -/
def protectionOn : UInt32 := 5

/-- What a task may do in a region: run the code there, or read and write the data. -/
inductive Access where
  | code
  | data
deriving DecidableEq, Repr, Inhabited

namespace Access

/-- The attribute bits of an access: execute-never and the permission field. -/
def bits : Access → UInt32
  | code => (2 : UInt32) <<< 24
  | data => (1 : UInt32) <<< 28 ||| (3 : UInt32) <<< 24

end Access

/-- The attribute bits of normal memory, write-back, with allocation on reads and writes. -/
def normalMemory : UInt32 := (1 : UInt32) <<< 19 ||| (3 : UInt32) <<< 16

/-- The size field of a region: one less than the logarithm of the size. -/
def sizeField (size : UInt32) : UInt32 := UInt32.ofNat (Nat.log2 size.toNat - 1)

/-- The attribute word of a region of a given size. -/
def attributeWord (access : Access) (size : UInt32) : UInt32 :=
  access.bits ||| normalMemory ||| sizeField size <<< 1 ||| 1

/-- The base and attribute words of a section. Bases must be aligned to 32 bytes, and regions have at
least so many. -/
def regionWords (access : Access) (region : Section) : Except Fault (UInt32 × UInt32) :=
  if region.address &&& 0x1f = 0 ∧ 32 ≤ region.size then
    .ok (region.address, attributeWord access region.size)
  else .error .sectionCheck

/-- The three regions of a task with their accesses, in the order of their numbers. -/
def taskRegions (desc : TaskDesc) : List (Access × Section) :=
  [(.code, desc.text), (.data, desc.bss), (.data, desc.stack)]

/-- The writes that program the regions with the given words, from a region number on. -/
def regionWrites (number : UInt32) : List (UInt32 × UInt32) → List RegisterWrite
  | [] => []
  | (base, attributes) :: rest =>
      ⟨.mpuRnr, number⟩ :: ⟨.mpuRbar, base⟩ :: ⟨.mpuRasr, attributes⟩ :: regionWrites (number + 1) rest

end CoopKernel.CortexM
