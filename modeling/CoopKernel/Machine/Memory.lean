/-! # Byte memory

A memory is its background byte and the writes made to it, newest first. Addresses are natural
numbers, so a write near the end of the address space does not come back at the start.
`read_fill`, `read_writeWords_inside` and `read_writeWords_outside` say what each write changes.
-/

namespace CoopKernel

inductive MemoryWrite where
  /-- The same byte throughout. -/
  | fill (base length : Nat) (byte : UInt8)
  /-- Words of 32 bits, low byte first. -/
  | words (base : Nat) (content : List UInt32)
deriving DecidableEq, Repr, Inhabited

/-- The byte of a word at an offset from its low end. -/
def wordByte (word : UInt32) (offset : Nat) : UInt8 := ⟨word.toBitVec.extractLsb' (8 * offset) 8⟩

namespace MemoryWrite

/-- The byte that a write leaves at an address, if it covers the address. -/
def byteAt? (write : MemoryWrite) (address : Nat) : Option UInt8 :=
  match write with
  | .fill base length byte => if base ≤ address ∧ address < base + length then some byte else none
  | .words base content =>
      if base ≤ address then content[(address - base) / 4]?.map (wordByte · ((address - base) % 4))
      else none

end MemoryWrite

/-- A memory by its history. -/
structure Memory where
  background : UInt8
  writes : List MemoryWrite := []
deriving DecidableEq, Repr, Inhabited

namespace Memory

/-- The byte at an address: that of the newest write over it. -/
def read (memory : Memory) (address : Nat) : UInt8 :=
  (memory.writes.findSome? (·.byteAt? address)).getD memory.background

def fill (memory : Memory) (base length : Nat) (byte : UInt8) : Memory :=
  { memory with writes := .fill base length byte :: memory.writes }

def writeWords (memory : Memory) (base : Nat) (words : List UInt32) : Memory :=
  { memory with writes := .words base words :: memory.writes }

theorem read_fill (memory : Memory) (base length : Nat) (byte : UInt8) (address : Nat) :
    (memory.fill base length byte).read address =
      if base ≤ address ∧ address < base + length then byte else memory.read address := by
  by_cases inside : base ≤ address ∧ address < base + length <;>
    simp [read, fill, MemoryWrite.byteAt?, inside]

theorem read_writeWords_inside (memory : Memory) (base : Nat) {words : List UInt32} {index offset : Nat} {word : UInt32}
    (written : words[index]? = some word) (small : offset < 4) :
    (memory.writeWords base words).read (base + 4 * index + offset) = wordByte word offset := by
  have indexEq : (base + 4 * index + offset - base) / 4 = index := by omega
  have offsetEq : (base + 4 * index + offset - base) % 4 = offset := by omega
  have covered : (MemoryWrite.words base words).byteAt? (base + 4 * index + offset) = some (wordByte word offset) := by
    rw [MemoryWrite.byteAt?, if_pos (by omega), indexEq, offsetEq, written, Option.map_some]
  simp [read, writeWords, covered]

theorem read_writeWords_outside (memory : Memory) (base : Nat) (words : List UInt32) (address : Nat)
    (outside : address < base ∨ base + 4 * words.length ≤ address) :
    (memory.writeWords base words).read address = memory.read address := by
  have missed : (MemoryWrite.words base words).byteAt? address = none := by
    by_cases after : base ≤ address
    · have past : words.length ≤ (address - base) / 4 := by omega
      simp [MemoryWrite.byteAt?, after, List.getElem?_eq_none past]
    · simp [MemoryWrite.byteAt?, after]
  simp [read, writeWords, missed]

/-- A stretch of equal bytes. -/
structure Stretch where
  base : Nat
  length : Nat
  byte : UInt8
deriving DecidableEq, Repr, Inhabited

/-- Put a byte in front of stretches that begin at the next address. -/
def consByte (base : Nat) (byte : UInt8) : List Stretch → List Stretch
  | stretch :: rest =>
      if stretch.byte = byte then ⟨base, stretch.length + 1, byte⟩ :: rest
      else ⟨base, 1, byte⟩ :: stretch :: rest
  | [] => [⟨base, 1, byte⟩]

/-- The maximal stretches of equal bytes from an address on, for so many bytes, ascending. -/
def stretches (memory : Memory) (base length : Nat) : List Stretch :=
  (List.range' base length).foldr (fun address found => consByte address (memory.read address) found) []

end Memory

end CoopKernel
