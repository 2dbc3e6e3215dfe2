import CoopKernel.Text.Numeral

/-! # Task ids

A task is named by one signed byte: its place in the task table, or one of two negative sentinels.
The sentinels have no place, so no table lookup ever finds them.
-/

namespace CoopKernel

/-- A table holds at most this many tasks, one for each bit of a `TaskMask`. -/
def maxTasks : Nat := 32

/-- The name of a task, as tasks and the kernel exchange it. -/
structure TaskId where
  val : Int8
deriving DecidableEq, Repr, Inhabited

namespace TaskId

/-- The id that names no task. -/
def nobody : TaskId := ⟨-1⟩

/-- The id that stands for every task; it means something as the destination of a send only. -/
def everyone : TaskId := ⟨-2⟩

/-- The id of the task at a place of the table: the low eight bits of the place. -/
def ofIndex (index : Nat) : TaskId := ⟨Int8.ofNat index⟩

/-- The place that an id names; negative ids name none. -/
def index? (id : TaskId) : Option Nat :=
  if 0 ≤ id.val then some id.val.toInt.toNat else none

/-- The place that an id names in a table of `n` tasks. -/
def within (n : Nat) (id : TaskId) : Option (Fin n) :=
  id.index?.bind fun index => if inside : index < n then some ⟨index, inside⟩ else none

/-- The id of a place that may be missing. -/
def ofPlace? {n : Nat} : Option (Fin n) → TaskId
  | none => nobody
  | some place => ofIndex place

def display (id : TaskId) : String :=
  if id = nobody then "none" else if id = everyone then "all" else "#" ++ Numeral.signed id.val.toInt

theorem index?_nobody : nobody.index? = none := by decide

theorem index?_everyone : everyone.index? = none := by decide

/-- Places below 128 survive the signed byte. -/
theorem index?_ofIndex {index : Nat} (small : index < 128) : (ofIndex index).index? = some index := by
  have every : ∀ i : Fin 128, (ofIndex i.val).index? = some i.val := by decide
  exact every ⟨index, small⟩

theorem within_ofIndex {n : Nat} (small : n ≤ 128) (place : Fin n) :
    (ofIndex place).within n = some place := by
  simp [within, index?_ofIndex (Nat.lt_of_lt_of_le place.isLt small)]

theorem within_ofPlace? {n : Nat} (small : n ≤ 128) (place : Option (Fin n)) : (ofPlace? place).within n = place := by
  cases place with
  | none => rfl
  | some place => exact within_ofIndex small place

theorem ofIndex_inj {n : Nat} (small : n ≤ 128) {a b : Fin n} (same : ofIndex a = ofIndex b) : a = b := by
  have found := within_ofIndex small a
  rw [same, within_ofIndex small b] at found
  exact (Option.some.inj found).symm

/-- A place is named by no other id than its own. -/
theorem eq_ofIndex {id : TaskId} {index : Nat} (named : id.index? = some index) : id = ofIndex index := by
  unfold index? at named
  split at named
  · next natural =>
    cases named
    have value : (id.val.toInt.toNat : Int) = id.val.toInt :=
      Int.toNat_of_nonneg (by simpa [Int8.le_iff_toInt_le] using natural)
    rw [ofIndex, ← Int8.ofInt_eq_ofNat, value, Int8.ofInt_toInt]
  · cases named

theorem within_eq_some_iff {n : Nat} (small : n ≤ 128) {id : TaskId} {place : Fin n} :
    id.within n = some place ↔ id = ofIndex place := by
  constructor
  · intro named
    obtain ⟨index, indexed, found⟩ := Option.bind_eq_some_iff.mp named
    split at found
    · cases found
      exact eq_ofIndex indexed
    · cases found
  · rintro rfl
    exact within_ofIndex small place

theorem everyone_ne_ofIndex {n : Nat} (small : n ≤ 128) (place : Fin n) : everyone ≠ ofIndex place := by
  intro same
  have named := within_ofIndex small place
  rw [← same, within, index?_everyone] at named
  cases named

theorem within_eq_none_iff {n : Nat} (small : n ≤ 128) {id : TaskId} :
    id.within n = none ↔ ∀ place : Fin n, id ≠ ofIndex place := by
  rw [Option.eq_none_iff_forall_ne_some]
  exact forall_congr' fun place => not_congr (within_eq_some_iff small)

end TaskId

end CoopKernel
