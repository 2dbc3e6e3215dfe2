import CoopKernel.Proofs.Ready.Threads

/-! # The ready list as a sorted sequence

Insertions and removals by id, in any order and number, against the same changes of a plain sequence:
`ReadyList.spells_sequence`. The links spell out the sequence from the head forwards and from its last
place backwards, membership by id is membership in the sequence, and whoever is outside has no links.
Ids that name no place change nothing. The walk backwards is the walk along the list with its links
turned around, so nothing is proved twice.
-/

namespace CoopKernel

open ReadyOrder

/-- A change of a ready list, by id. -/
inductive ReadyChange where
  | insert (id : TaskId)
  | remove (id : TaskId)
deriving DecidableEq, Repr

namespace ReadyChange

variable {n : Nat}

/-- Whether a change is meant for a table of `n` tasks: an id past the table cannot be inserted. -/
def Fits (n : Nat) : ReadyChange → Prop
  | .insert id => ∀ index ∈ id.index?, index < n
  | .remove _ => True

instance : DecidablePred (Fits n)
  | .insert id => inferInstanceAs (Decidable (∀ index ∈ id.index?, index < n))
  | .remove _ => .isTrue trivial

def apply (rank : Fin n → Priority) (list : ReadyList n) : ReadyChange → Except Fault (ReadyList n)
  | .insert id => list.insertId rank id
  | .remove id => .ok (list.removeId id)

/-- What a change makes of a plain sequence: a newcomer goes in front of the first place of lower priority, or to
the end, and whoever is removed is deleted. -/
def applyTo (rank : Fin n → Priority) (order : List (Fin n)) : ReadyChange → List (Fin n)
  | .insert id => (id.within n).elim order fun place => enqueue rank place order
  | .remove id => (id.within n).elim order order.erase

/-- Changes of a ready list one after the other, up to the first fault. -/
def applyAll (rank : Fin n → Priority) (changes : List ReadyChange) (list : ReadyList n) :
    Except Fault (ReadyList n) :=
  changes.foldlM (apply rank) list

/-- The sequence that changes make out of nothing. -/
def sequence (rank : Fin n → Priority) (changes : List ReadyChange) : List (Fin n) :=
  changes.foldl (applyTo rank) []

end ReadyChange

namespace ReadyList

variable {n : Nat} {list : ReadyList n} {order : List (Fin n)}

/-- The places from a start on, following the links backwards, at most so many. -/
def retrace (list : ReadyList n) : Nat → Option (Fin n) → List (Fin n)
  | steps + 1, some place => place :: list.retrace steps (list.links.get place).prev
  | _, _ => []

/-- The list with its links turned around, beginning at a given place. -/
def turned (list : ReadyList n) (start : Option (Fin n)) : ReadyList n where
  head := start
  links := list.links.map fun links => ⟨links.prev, links.next⟩

theorem links_turned (start : Option (Fin n)) (place : Fin n) :
    (list.turned start).links.get place = ⟨(list.links.get place).prev, (list.links.get place).next⟩ :=
  Vector.getElem_map ..

theorem follow_turned (start from? : Option (Fin n)) (steps : Nat) :
    (list.turned start).follow steps from? = list.retrace steps from? := by
  induction steps generalizing from? with
  | zero => cases from? <;> rfl
  | succ steps ih =>
    cases from? with
    | none => rfl
    | some place => rw [follow, retrace, next, links_turned, ih]

/-- The turned list threads the reversed sequence. -/
theorem Threads.turned {settled : Fin n → Prop} (threads : list.Threads settled order) :
    (list.turned order.getLast?).Threads settled order.reverse where
  nodup := List.nodup_reverse.mpr threads.nodup
  head_eq := List.head?_reverse.symm
  settled_of_mem place member := threads.settled_of_mem place (List.mem_reverse.mp member)
  links_eq place isSettled := by
    rw [links_turned, threads.links_eq place isSettled, preceding, preceding, List.reverse_reverse]

/-- A list of which every link is part of a sequence: the sequence from the head on, the same sequence backwards from
its last place, and no links beside it. -/
structure Spells (list : ReadyList n) (order : List (Fin n)) : Prop where
  head_eq : list.head = order.head?
  walk_eq : ∀ steps, order.length ≤ steps → list.walk steps = order
  retrace_eq : ∀ steps, order.length ≤ steps → list.retrace steps order.getLast? = order.reverse
  containsId_iff : ∀ id, list.containsId id = true ↔ ∃ place ∈ order, id = .ofIndex place
  links_of_notMem : ∀ place, place ∉ order → list.links.get place = ⟨none, none⟩

namespace WellFormed

theorem spells (formed : list.WellFormed) (small : n ≤ 128) : list.Spells list.toList where
  head_eq := formed.head_eq
  walk_eq _ enough := Threads.walk_eq formed enough
  retrace_eq steps enough := by
    rw [← follow_turned list.toList.getLast?]
    exact (Threads.turned formed).walk_eq (by rwa [List.length_reverse])
  containsId_iff := formed.containsId_iff small
  links_of_notMem _ absent := Threads.links_of_notMem formed trivial absent

/-- One change of the list is the same change of its sequence. -/
theorem change (formed : list.WellFormed) (rank : Fin n → Priority) {change : ReadyChange} (fits : change.Fits n) :
    ∃ after, change.apply rank list = .ok after ∧ after.WellFormed ∧
      after.toList = change.applyTo rank list.toList := by
  cases change with
  | insert id =>
    rw [ReadyChange.apply, insertId, ReadyChange.applyTo, TaskId.within]
    cases named : id.index? with
    | none => exact ⟨list, rfl, formed, rfl⟩
    | some index =>
      have inside : index < n := fits index named
      dsimp only [Option.bind_some]
      rw [dif_pos inside, dif_pos inside]
      exact formed.insert rank ⟨index, inside⟩
  | remove id =>
    refine ⟨list.removeId id, rfl, ?_⟩
    rw [removeId, ReadyChange.applyTo]
    cases id.within n with
    | none => exact ⟨formed, rfl⟩
    | some place => exact ⟨formed.remove place, formed.toList_remove place⟩

/-- Changes of a list are the same changes of its sequence. -/
theorem changes (formed : list.WellFormed) (rank : Fin n → Priority) {changes : List ReadyChange}
    (fits : ∀ change ∈ changes, change.Fits n) :
    ∃ after, ReadyChange.applyAll rank changes list = .ok after ∧ after.WellFormed ∧
      after.toList = changes.foldl (ReadyChange.applyTo rank) list.toList := by
  induction changes generalizing list with
  | nil => exact ⟨list, rfl, formed, rfl⟩
  | cons first rest ih =>
    obtain ⟨middle, changed, formedMiddle, middleEq⟩ := formed.change rank (fits first (List.mem_cons_self ..))
    obtain ⟨after, changedAll, formedAfter, afterEq⟩ :=
      ih formedMiddle fun change later => fits change (List.mem_cons_of_mem _ later)
    refine ⟨after, ?_, formedAfter, ?_⟩
    · rw [ReadyChange.applyAll, List.foldlM_cons, changed]
      exact changedAll
    · rw [afterEq, middleEq, List.foldl_cons]

end WellFormed

/-- Changes keep a sequence in the order of priorities. -/
theorem ranked_sequence (rank : Fin n → Priority) (changes : List ReadyChange) :
    Ranked rank (ReadyChange.sequence rank changes) := by
  refine List.foldlRecOn changes (ReadyChange.applyTo rank) .nil fun order ranked change _ => ?_
  cases change with
  | insert id =>
    rw [ReadyChange.applyTo]
    cases id.within n with
    | none => exact ranked
    | some place => exact ranked.enqueue place
  | remove id =>
    rw [ReadyChange.applyTo]
    cases id.within n with
    | none => exact ranked
    | some place => exact ranked.sublist List.erase_sublist

/-- Insertions and removals on an empty list, in any order, come back, and leave the list that spells out the sequence
of the same changes. -/
theorem spells_sequence (small : n ≤ 128) (rank : Fin n → Priority) (changes : List ReadyChange)
    (fits : ∀ change ∈ changes, change.Fits n) :
    ∃ list, ReadyChange.applyAll rank changes .empty = .ok list ∧ list.Spells (ReadyChange.sequence rank changes) ∧
      Ranked rank (ReadyChange.sequence rank changes) := by
  obtain ⟨list, changed, formed, listEq⟩ := WellFormed.empty.changes rank fits
  have sequenceEq : list.toList = ReadyChange.sequence rank changes := by
    rw [listEq, threads_empty.toList_eq, ReadyChange.sequence]
  refine ⟨list, changed, ?_, ranked_sequence rank changes⟩
  rw [← sequenceEq]
  exact formed.spells small

/-- Of four tasks three are put in, one of them twice; the sentinels and an id past the table change nothing. -/
theorem spells_sequence_demo : ∃ list : ReadyList 4,
    ReadyChange.applyAll (fun place => #v[⟨1⟩, ⟨3⟩, ⟨2⟩, ⟨3⟩].get place)
      [.insert (.ofIndex 0), .insert .nobody, .insert (.ofIndex 3), .insert (.ofIndex 2), .insert (.ofIndex 1),
        .insert .everyone, .insert (.ofIndex 3), .remove (.ofIndex 9), .remove (.ofIndex 2)] .empty = .ok list ∧
      list.Spells [3, 1, 0] := by
  obtain ⟨list, changed, spells, -⟩ := spells_sequence (by decide : 4 ≤ 128)
    (fun place => #v[⟨1⟩, ⟨3⟩, ⟨2⟩, ⟨3⟩].get place)
    [.insert (.ofIndex 0), .insert .nobody, .insert (.ofIndex 3), .insert (.ofIndex 2), .insert (.ofIndex 1),
      .insert .everyone, .insert (.ofIndex 3), .remove (.ofIndex 9), .remove (.ofIndex 2)] (by decide)
  exact ⟨list, changed, spells⟩

end ReadyList

end CoopKernel
