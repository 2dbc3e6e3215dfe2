import CoopKernel.Task.Id

/-! # Sets of tasks

A set of tasks is a word with one bit for each place of the table. A task's permission (who may post
to its mailbox) and its waiting mask (whose mail it wants) are such sets. `contains_eq` says which ids
a set holds, `contains_ofPlace` that a one-element set holds its element; `contains_inter` and
`contains_union` that the operations are those of sets.
-/

namespace CoopKernel

/-- A set of places of the task table. -/
structure TaskMask where
  bits : UInt32
deriving DecidableEq, Repr, Inhabited

namespace TaskMask

def empty : TaskMask := ⟨0⟩

def full : TaskMask := ⟨0xffffffff⟩

/-- The set of one place; a place past the last bit is in no set. -/
def ofPlace (place : Nat) : TaskMask :=
  if place < maxTasks then ⟨⟨BitVec.twoPow 32 place⟩⟩ else empty

/-- The set whose only member is the task that an id names; empty for the sentinels. -/
def of (id : TaskId) : TaskMask :=
  match id.index? with
  | some place => ofPlace place
  | none => empty

def isEmpty (mask : TaskMask) : Bool := mask.bits == 0

def inter (a b : TaskMask) : TaskMask := ⟨a.bits &&& b.bits⟩

def union (a b : TaskMask) : TaskMask := ⟨a.bits ||| b.bits⟩

instance : Inter TaskMask := ⟨inter⟩
instance : Union TaskMask := ⟨union⟩

def intersects (a b : TaskMask) : Bool := !(a ∩ b).isEmpty

/-- Whether the task that an id names is in the set. -/
def contains (mask : TaskMask) (id : TaskId) : Bool := (of id).intersects mask

/-- A word shares no bit with the word of one place exactly when the bit of the place is not set. -/
theorem twoPow_and_eq_zero (bits : UInt32) {place : Nat} (small : place < maxTasks) :
    ((⟨BitVec.twoPow 32 place⟩ : UInt32) &&& bits == 0) = !bits.toBitVec.getLsbD place := by
  have word : ((⟨BitVec.twoPow 32 place⟩ : UInt32) &&& bits == 0) =
      (BitVec.twoPow 32 place &&& bits.toBitVec == 0#32) := by
    rw [Bool.eq_iff_iff]
    simp [← UInt32.toBitVec_inj]
  rw [word, BitVec.twoPow_and]
  cases bits.toBitVec.getLsbD place
  · simp
  · simp only [↓reduceIte, Bool.not_true, beq_eq_false_iff_ne, ne_eq]
    intro zero
    have here := congrArg (·.getLsbD place) zero
    simp [show place < 32 from small] at here

/-- A set holds the ids of the places whose bits are set. -/
theorem contains_eq (mask : TaskMask) (id : TaskId) :
    mask.contains id =
      id.index?.any fun place => decide (place < maxTasks) && mask.bits.toBitVec.getLsbD place := by
  cases named : id.index? with
  | none => simp [contains, of, named, intersects, isEmpty, Inter.inter, inter, empty]
  | some place =>
      by_cases small : place < maxTasks
      · simp [contains, of, named, intersects, isEmpty, Inter.inter, inter, ofPlace, small,
          twoPow_and_eq_zero mask.bits small]
      · simp [contains, of, named, intersects, isEmpty, Inter.inter, inter, ofPlace, small, empty]

theorem contains_ofPlace {place : Nat} (small : place < maxTasks) (id : TaskId) :
    (ofPlace place).contains id = (id.index? == some place) := by
  rw [contains_eq]
  cases id.index? with
  | none => rfl
  | some other =>
      have bits : (ofPlace place).bits.toBitVec.getLsbD other = decide (place < 32 ∧ place = other) := by
        rw [ofPlace, if_pos small, BitVec.getLsbD_twoPow, Bool.decide_and]
      by_cases same : other = place
      · subst same
        simp [bits, small, show other < 32 from small]
      · simp [bits, same, Ne.symm same]

theorem contains_inter (a b : TaskMask) (id : TaskId) :
    (a ∩ b).contains id = (a.contains id && b.contains id) := by
  simp only [contains_eq]
  cases id.index? with
  | none => rfl
  | some place => by_cases small : place < maxTasks <;> simp [Inter.inter, inter, small]

theorem contains_union (a b : TaskMask) (id : TaskId) :
    (a ∪ b).contains id = (a.contains id || b.contains id) := by
  simp only [contains_eq]
  cases id.index? with
  | none => rfl
  | some place => by_cases small : place < maxTasks <;> simp [Union.union, union, small]

theorem contains_empty (id : TaskId) : empty.contains id = false := by
  rw [contains_eq]
  cases id.index? <;> simp [empty]

theorem contains_full {place : Nat} (small : place < maxTasks) : full.contains (.ofIndex place) = true := by
  have every : ∀ i : Fin maxTasks, full.bits.toBitVec.getLsbD i.val = true := by decide
  rw [contains_eq, TaskId.index?_ofIndex (Nat.lt_trans small (by decide))]
  simp [small, every ⟨place, small⟩]

theorem intersects_comm (a b : TaskMask) : a.intersects b = b.intersects a := by
  simp only [intersects, Inter.inter, inter, UInt32.and_comm]

/-- A union shares a task with a set when one of its parts does. -/
theorem intersects_union (a b mask : TaskMask) :
    (a ∪ b).intersects mask = (a.intersects mask || b.intersects mask) := by
  have split : (a.bits ||| b.bits) &&& mask.bits = a.bits &&& mask.bits ||| b.bits &&& mask.bits := by
    rw [← UInt32.toBitVec_inj]
    exact BitVec.and_or_distrib_right ..
  rw [Bool.eq_iff_iff]
  simp [intersects, isEmpty, Inter.inter, inter, Union.union, union, split, Classical.or_iff_not_imp_left]

end TaskMask

end CoopKernel
