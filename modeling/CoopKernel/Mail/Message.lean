import CoopKernel.Task.Id

/-! # Words of mail

A message is a word of one, two, four or eight bytes; the width is fixed for a whole build. It
travels through registers as two words of 32 bits. `ofWords_toWords` says that a message comes back
from its two words unchanged, at every width.
-/

namespace CoopKernel

/-- How many bytes a message has. -/
inductive Width where
  | one
  | two
  | four
  | eight
deriving DecidableEq, Repr, Inhabited

namespace Width

def bits : Width → Nat
  | one => 8
  | two => 16
  | four => 32
  | eight => 64

def ofBytes? : Nat → Option Width
  | 1 => some one
  | 2 => some two
  | 4 => some four
  | 8 => some eight
  | _ => none

end Width

/-- What one mailbox entry carries. -/
abbrev Message (width : Width) : Type := BitVec width.bits

namespace Message

/-- The message made of a low and a high word; bits past the width are dropped. -/
def ofWords (width : Width) (low high : UInt32) : Message width :=
  (high.toBitVec ++ low.toBitVec).setWidth width.bits

/-- The low and the high word of a message, filled with zeros. -/
def toWords {width : Width} (message : Message width) : UInt32 × UInt32 :=
  (⟨message.setWidth 32⟩, ⟨(message.setWidth 64).extractLsb' 32 32⟩)

/-- A message comes back from its two words. -/
theorem ofWords_toWords {width : Width} (message : Message width) :
    ofWords width message.toWords.1 message.toWords.2 = message := by
  have narrow : width.bits ≤ 64 := by cases width <;> decide
  apply BitVec.eq_of_getLsbD_eq
  intro i small
  simp only [ofWords, toWords, BitVec.getLsbD_setWidth, BitVec.getLsbD_append,
    BitVec.getLsbD_extractLsb', small]
  by_cases low : i < 32
  · simp [low]
  · simp [low, show i - 32 < 32 by omega, show 32 + (i - 32) = i by omega, show i < 64 by omega]

end Message

/-- One buffered message and the task it came from. -/
structure Entry (width : Width) where
  sender : TaskId
  message : Message width
deriving DecidableEq, Repr, Inhabited

namespace Entry

/-- What an unused slot holds. -/
def empty {width : Width} : Entry width := ⟨TaskId.nobody, 0⟩

end Entry

end CoopKernel
