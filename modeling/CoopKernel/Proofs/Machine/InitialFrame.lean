import CoopKernel.Proofs.Machine.Matching
import CoopKernel.Proofs.Machine.Regions

/-! # The frame with which a task starts

A task starts by returning from an exception: the processor takes 26 words off the task's stack.
`buildContext_framed` says where these words lie, whatever the description of the task is: at the last
multiple of eight that leaves room for them below the end of the stack (`Framed`), or the stack has no such
room, and nothing is written. `frameAddress_ok_iff` and `frameAddress_error` give the bounds. The end of
the stack is rounded down, so seven bytes more than the frame's own are always enough.
-/

namespace CoopKernel

namespace Memory

/-- The word at an address, low byte first. -/
def wordAt (memory : Memory) (address : Nat) : UInt32 :=
  UInt32.ofNat ((memory.read address).toNat + 2 ^ 8 * (memory.read (address + 1)).toNat +
    2 ^ 16 * (memory.read (address + 2)).toNat + 2 ^ 24 * (memory.read (address + 3)).toNat)

theorem toNat_wordByte (word : UInt32) (offset : Nat) :
    (wordByte word offset).toNat = word.toNat / 2 ^ (8 * offset) % 2 ^ 8 := by
  change (word.toBitVec.extractLsb' (8 * offset) 8).toNat = _
  rw [BitVec.extractLsb'_toNat, Nat.shiftRight_eq_div_pow]
  rfl

/-- A word is read back from where it was written. -/
theorem wordAt_writeWords (memory : Memory) (base : Nat) {words : List UInt32} {index : Nat} {word : UInt32}
    (written : words[index]? = some word) : (memory.writeWords base words).wordAt (base + 4 * index) = word := by
  have byteAt (offset : Nat) (small : offset < 4) :
      ((memory.writeWords base words).read (base + 4 * index + offset)).toNat =
        word.toNat / 2 ^ (8 * offset) % 2 ^ 8 := by
    rw [read_writeWords_inside memory base written small, toNat_wordByte]
  have first := byteAt 0 (by decide)
  have second := byteAt 1 (by decide)
  have third := byteAt 2 (by decide)
  have fourth := byteAt 3 (by decide)
  have bound := word.toNat_lt
  rw [Nat.add_zero] at first
  rw [wordAt, first, second, third, fourth, ← UInt32.toNat_inj, UInt32.toNat_ofNat']
  omega

end Memory

namespace CortexM

/-! ## Where the frame lies -/

/-- Rounding an address down to a multiple of eight. -/
theorem toNat_and_eights (address : UInt32) : (address &&& 0xfffffff8).toNat = address.toNat / 2 ^ 3 * 2 ^ 3 := by
  have mask : ∀ bit < 32, (0xfffffff8 : UInt32).toNat.testBit bit = decide (3 ≤ bit) := by decide
  rw [UInt32.toNat_and]
  refine Nat.eq_of_testBit_eq fun bit => ?_
  rw [Nat.testBit_and, Nat.testBit_mul_two_pow, Nat.testBit_div_two_pow]
  by_cases inside : bit < 32
  · rw [mask bit inside, Bool.and_comm]
    by_cases late : 3 ≤ bit
    · rw [Nat.sub_add_cancel late]
    · rw [decide_eq_false late, Bool.false_and, Bool.false_and]
  · have none : address.toNat.testBit bit = false :=
      Nat.testBit_lt_two_pow (Nat.lt_of_lt_of_le address.toNat_lt (Nat.pow_le_pow_right (by decide) (by omega)))
    rw [Nat.sub_add_cancel (by omega), none, Bool.false_and, Bool.and_false]

variable {stack : Section} {frame : UInt32} {fault : Fault}

theorem toNat_frameLimit (stack : Section) :
    (frameLimit stack).toNat = (stack.address.toNat + stack.size.toNat) % 2 ^ 32 / 2 ^ 3 * 2 ^ 3 := by
  rw [frameLimit, toNat_and_eights, Section.limit, UInt32.toNat_add]

/-- The frame goes below the last multiple of eight in the stack, if the stack ends within the address space and has
room for it there. -/
theorem frameAddress_ok_iff : frameAddress stack = .ok frame ↔
    stack.address.toNat + stack.size.toNat < 2 ^ 32 ∧
      stack.address.toNat + 104 ≤ (stack.address.toNat + stack.size.toNat) / 2 ^ 3 * 2 ^ 3 ∧
      frame.toNat + 104 = (stack.address.toNat + stack.size.toNat) / 2 ^ 3 * 2 ^ 3 := by
  have limitEq := toNat_frameLimit stack
  have addressBound := stack.address.toNat_lt
  have sizeBound := stack.size.toNat_lt
  have bytesEq : frameBytes.toNat = 104 := rfl
  unfold frameAddress
  split
  · next overflows =>
    refine iff_of_false (by simp) ?_
    rintro ⟨inside, room, -⟩
    have sizeEq : UInt32.size = 2 ^ 32 := rfl
    omega
  · next fits =>
    have sizeEq : UInt32.size = 2 ^ 32 := rfl
    have startEq : (stack.address + frameBytes).toNat = stack.address.toNat + 104 := by
      rw [UInt32.toNat_add, bytesEq]
      omega
    split
    · next short =>
      refine iff_of_false (by simp) ?_
      rintro ⟨inside, room, -⟩
      rw [UInt32.lt_iff_toNat_lt] at short
      omega
    · next room =>
      rw [UInt32.lt_iff_toNat_lt, Nat.not_lt, startEq] at room
      have below : frameBytes ≤ frameLimit stack := by
        rw [UInt32.le_iff_toNat_le]
        omega
      have placeEq : (frameLimit stack - frameBytes).toNat = (frameLimit stack).toNat - 104 :=
        UInt32.toNat_sub_of_le _ _ below
      rw [Except.ok.injEq, ← UInt32.toNat_inj, placeEq]
      constructor
      · rintro same
        omega
      · rintro ⟨inside, -, same⟩
        omega

/-- A stack without such room is found by the comparison, or by its sum before it. -/
theorem frameAddress_error (failed : frameAddress stack = .error fault) :
    fault = if 2 ^ 32 ≤ stack.address.toNat + 104 then .addressOverflow else .sectionCheck := by
  unfold frameAddress at failed
  split at failed
  · next overflows =>
    cases failed
    exact (if_pos overflows).symm
  · next fits =>
    refine Eq.trans ?_ (if_neg fits).symm
    split at failed
    · cases failed
      rfl
    · cases failed

/-- Up to seven bytes are lost to rounding, so 111 bytes hold the frame wherever the stack begins. -/
theorem exists_frameAddress (inside : stack.address.toNat + stack.size.toNat < 2 ^ 32) (large : 111 ≤ stack.size.toNat) :
    ∃ frame, frameAddress stack = .ok frame := by
  refine ⟨UInt32.ofNat ((stack.address.toNat + stack.size.toNat) / 2 ^ 3 * 2 ^ 3 - 104), ?_⟩
  rw [frameAddress_ok_iff, UInt32.toNat_ofNat', Nat.mod_eq_of_lt (by omega)]
  omega

/-! ## What the frame holds -/

/-- The words that the processor takes off at an address start a task with a given id at a given entry point. -/
structure HoldsFrame (memory : Memory) (id : TaskId) (entry : UInt32) (address : Nat) : Prop where
  /-- The id is in r0, with its sign. -/
  id_eq : (memory.wordAt address).toInt32.toInt = id.val.toInt
  /-- r1, r2, r3 and r12. -/
  registers_eq : ∀ index, 1 ≤ index → index < 5 → memory.wordAt (address + 4 * index) = 0
  link_eq : memory.wordAt (address + 4 * 5) = 0xffffffff
  entry_eq : memory.wordAt (address + 4 * 6) = entry ||| 1
  status_eq : memory.wordAt (address + 4 * 7) = 0x01000000
  /-- The floating point registers, their status, and the word that fills the frame up. -/
  rest_eq : ∀ index, 8 ≤ index → index < 26 → memory.wordAt (address + 4 * index) = 0

theorem holdsFrame_writeWords (memory : Memory) (id : TaskId) (desc : TaskDesc) (address : Nat) :
    HoldsFrame (memory.writeWords address (frameWords id desc)) id desc.text.address address := by
  have written {index : Nat} {word : UInt32} (listed : (frameWords id desc)[index]? = some word) :=
    memory.wordAt_writeWords address listed
  constructor
  · have first := written (show (frameWords id desc)[0]? = some id.val.toInt32.toUInt32 from rfl)
    rw [Nat.mul_zero, Nat.add_zero] at first
    rw [first]
    exact Int8.toInt_toInt32 id.val
  · intro index positive small
    match index with
    | 1 => exact written rfl
    | 2 => exact written rfl
    | 3 => exact written rfl
    | 4 => exact written rfl
  · exact written rfl
  · exact written rfl
  · exact written rfl
  · intro index late inside
    have blank : index - 8 < 18 := by omega
    refine written ?_
    rw [frameWords, List.getElem?_append_right late, List.getElem?_replicate]
    exact if_pos blank

/-! ## Building a context -/

/-- What a task finds when it starts, between the memory before and after its context was built: its stack pointer at the
frame and nothing else in its registers, the frame at the top of its stack, and its sections cleared around the frame. -/
structure Framed (id : TaskId) (desc : TaskDesc) (before after : Memory) (context : Context) : Prop where
  aligned : 8 ∣ context.stackPointer.toNat
  from_start : desc.stack.address.toNat ≤ context.stackPointer.toNat
  to_limit : context.stackPointer.toNat + 104 ≤ desc.stack.address.toNat + desc.stack.size.toNat
  unwrapped : desc.stack.address.toNat + desc.stack.size.toNat < 2 ^ 32
  at_top : desc.stack.address.toNat + desc.stack.size.toNat < context.stackPointer.toNat + 104 + 8
  holdsFrame : HoldsFrame after id desc.text.address context.stackPointer.toNat
  cleared : ∀ address, desc.bss.Contains address ∨ desc.stack.Contains address →
    address < context.stackPointer.toNat ∨ context.stackPointer.toNat + 104 ≤ address → after.read address = 0
  kept : ∀ address, ¬ desc.bss.Contains address → ¬ desc.stack.Contains address →
    after.read address = before.read address
  exceptionReturn_eq : context.words.get exceptionReturnWord = 0xffffffed
  saved_eq : ∀ word, word ≠ stackPointerWord → word ≠ exceptionReturnWord → context.words.get word = 0

/-- What clearing the sections and laying the frame leaves at an address outside the frame. -/
theorem read_layFrame (memory : Memory) (id : TaskId) (desc : TaskDesc) (frame : UInt32) {address : Nat}
    (outside : address < frame.toNat ∨ frame.toNat + 104 ≤ address) :
    (layFrame memory id desc frame).read address =
      if desc.bss.Contains address ∨ desc.stack.Contains address then 0 else memory.read address := by
  have lengthEq : (frameWords id desc).length = 26 := rfl
  rw [layFrame, Memory.read_writeWords_outside _ _ _ _ (by omega), Memory.read_fill, Memory.read_fill]
  change (if desc.stack.Contains address then 0 else if desc.bss.Contains address then 0 else memory.read address) = _
  by_cases inStack : desc.stack.Contains address
  · rw [if_pos inStack, if_pos (Or.inr inStack)]
  · simp only [inStack, if_false, or_false]

theorem get_startContext (frame : UInt32) (word : Fin contextWords) :
    (startContext frame).words.get word =
      if word = exceptionReturnWord then exceptionReturn else if word = stackPointerWord then frame else 0 := by
  have blank : ({} : Context).words.get word = 0 := Vector.getElem_replicate word.isLt
  simp only [startContext, Context.setWords, List.foldl_cons, List.foldl_nil, Context.get_setWord, Fin.val_inj,
    eq_comm (b := word), blank]

theorem framed_of_frameAddress {desc : TaskDesc} (found : frameAddress desc.stack = .ok frame) (id : TaskId)
    (memory : Memory) : Framed id desc memory (layFrame memory id desc frame) (startContext frame) := by
  obtain ⟨inside, room, placeEq⟩ := frameAddress_ok_iff.mp found
  have pointerEq : (startContext frame).stackPointer = frame := get_startContext frame stackPointerWord
  constructor
  · rw [pointerEq]
    omega
  · rw [pointerEq]
    omega
  · rw [pointerEq]
    omega
  · exact inside
  · rw [pointerEq]
    omega
  · rw [pointerEq]
    exact holdsFrame_writeWords _ id desc frame.toNat
  · intro address within outside
    rw [pointerEq] at outside
    rw [read_layFrame memory id desc frame outside, if_pos within]
  · intro address noBss noStack
    -- the frame lies in the stack, so an address outside the stack is outside the frame
    have outside : address < frame.toNat ∨ frame.toNat + 104 ≤ address := by
      unfold Section.Contains at noStack
      omega
    rw [read_layFrame memory id desc frame outside, if_neg (not_or.mpr ⟨noBss, noStack⟩)]
  · exact get_startContext frame exceptionReturnWord
  · intro word noPointer noReturn
    rw [get_startContext, if_neg noReturn, if_neg noPointer]

/-- Whatever the sections of a task are, its context is built as `Framed` says, or not at all: then the stack has no room
for the frame, and the machine is as it was. The kernel leaves the context in the place of the registers that were saved
there. 111 bytes are room enough in a stack that ends within the address space. -/
theorem buildContext_framed {width : Width} {n : Nat} (id : TaskId) (desc : TaskDesc) (board : CortexM) :
    (∀ fault after, buildContext id desc board = .error fault after →
      after = board ∧
        fault = if 2 ^ 32 ≤ desc.stack.address.toNat + 104 then .addressOverflow else .sectionCheck) ∧
    (∀ context after, buildContext id desc board = .ok context after →
      Framed id desc board.memory after.memory context ∧ after = { board with memory := after.memory }) ∧
    (∀ (kernel after : Kernel width CortexM Context n) (place : Fin n),
      Kernel.rebuildContext place kernel = .ok () after →
        Framed (.ofIndex place) (kernel.desc place) kernel.machine.memory after.machine.memory
          (after.taskAt place).context) ∧
    (111 ≤ desc.stack.size.toNat → desc.stack.address.toNat + desc.stack.size.toNat < 2 ^ 32 →
      ∃ context after, buildContext id desc board = .ok context after) := by
  have built {id : TaskId} {desc : TaskDesc} {board after : CortexM} {context : Context}
      (came : buildContext id desc board = .ok context after) :
      Framed id desc board.memory after.memory context ∧ after = { board with memory := after.memory } := by
    unfold buildContext at came
    split at came
    · cases came
    · next frame found =>
      cases came
      exact ⟨framed_of_frameAddress found id board.memory, rfl⟩
  refine ⟨fun fault after failed => ?_, fun context after came => built came, fun kernel after place came => ?_,
    fun large inside => ?_⟩
  · unfold buildContext at failed
    split at failed
    · next cause found =>
      cases failed
      exact ⟨rfl, frameAddress_error found⟩
    · cases failed
  · simp only [Kernel.rebuildContext, bind_ok_iff, get_ok_iff, Kernel.onMachine_ok_iff, modify_ok_iff] at came
    obtain ⟨_, _, ⟨rfl, rfl⟩, context, _, ⟨machine, came, rfl⟩, rfl⟩ := came
    rw [Kernel.changeContext, Kernel.taskAt_changeTask, if_pos rfl]
    exact (built came).1
  · obtain ⟨frame, found⟩ := exists_frameAddress inside large
    unfold buildContext
    rw [found]
    exact ⟨_, _, rfl⟩

/-- From an odd address on, 111 bytes are room enough, and 110 bytes are not. -/
example : frameAddress ⟨0x20000001, 111⟩ = .ok 0x20000008 ∧ frameAddress ⟨0x20000001, 110⟩ = .error .sectionCheck := by
  decide

end CortexM

end CoopKernel
