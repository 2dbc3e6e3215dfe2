import CoopKernel.Kernel.Basic
import CoopKernel.Mail.Mailbox.Entries

/-! # Machine words suffice

The ready list is stored as ids in the cells of a table, a mailbox as bytes beside its slots, the trace
as an index beside its records. The definitions here work on what is stored, in machine words, and stop
where a program would: at an index past a table, at a sum that does not fit or a difference below zero,
at a chain of links that does not end. They answer `none` there. Each lemma says that the operation does
not stop and leaves what the operation of the kernel leaves.
-/

namespace CoopKernel

/-- How many numbers a word can hold that is used as an index. -/
def wordSize : Nat := UInt32.size

/-- A sum, if it is below a bound. -/
def sum? (bound left right : Nat) : Option Nat := if left + right < bound then some (left + right) else none

/-- A difference, if it is not below zero. -/
def difference? (left right : Nat) : Option Nat := if right ≤ left then some (left - right) else none

/-- Write a slot, if there is the slot. -/
def store? {α : Type} {size : Nat} (slots : Vector α size) (index : Nat) (value : α) : Option (Vector α size) :=
  if inside : index < size then some (slots.set index value) else none

theorem sum?_eq {bound left right : Nat} (small : left + right < bound) : sum? bound left right = some (left + right) :=
  if_pos small

theorem difference?_eq {left right : Nat} (enough : right ≤ left) : difference? left right = some (left - right) :=
  if_pos enough

theorem store?_eq {α : Type} {size : Nat} (slots : Vector α size) (index : Fin size) (value : α) :
    store? slots index value = some (slots.set index value) := dif_pos index.isLt

theorem getElem?_eq_get {α : Type} {size : Nat} (slots : Vector α size) (index : Fin size) :
    slots[index.val]? = some (slots.get index) := Vector.getElem?_eq_getElem index.isLt

/-- A fold none of whose steps stops. -/
theorem foldlM_eq_some {α β : Type} {step? : β → α → Option β} {step : β → α → β} {items : List α} (start : β)
    (steps : ∀ sofar, ∀ item ∈ items, step? sofar item = some (step sofar item)) :
    items.foldlM step? start = some (items.foldl step start) := by
  induction items generalizing start with
  | nil => rfl
  | cons item rest ih =>
    rw [List.foldlM_cons, steps start item (List.mem_cons_self ..), Option.bind_eq_bind, Option.bind_some]
    exact ih _ fun sofar other member => steps sofar other (List.mem_cons_of_mem _ member)

/-! ## The ready list -/

/-- The ids of the neighbours of a place, as they are stored. -/
structure Cell where
  next : TaskId
  prev : TaskId

/-- A ready list as it is stored. -/
structure ReadyCells (n : Nat) where
  head : TaskId
  cells : Vector Cell n

namespace ReadyCells

variable {n : Nat}

def change (stored : ReadyCells n) (index : Nat) (change : Cell → Cell) : Option (ReadyCells n) := do
  let cell ← stored.cells[index]?
  let cells ← store? stored.cells index (change cell)
  return { stored with cells := cells }

/-- Set what comes after an id, or the head. -/
def setNext (stored : ReadyCells n) (id next : TaskId) : Option (ReadyCells n) :=
  match id.index? with
  | some index => stored.change index fun cell => { cell with next := next }
  | none => some { stored with head := next }

/-- Set what comes before an id, if it names a place. -/
def setPrev (stored : ReadyCells n) (id prev : TaskId) : Option (ReadyCells n) :=
  match id.index? with
  | some index => stored.change index fun cell => { cell with prev := prev }
  | none => some stored

/-- Whether an id is the head of the list or has a neighbour. -/
def contains (stored : ReadyCells n) (id : TaskId) : Bool :=
  match id.index?.bind fun index => stored.cells[index]? with
  | some cell => stored.head == id || cell.next != .nobody || cell.prev != .nobody
  | none => false

/-- The gap in front of the first id of lower priority, as the ids before and after it. The links must end, or pass a
lower priority, within so many steps. -/
def search (stored : ReadyCells n) (ranks : Vector Priority n) (priority : Priority) :
    Nat → TaskId → TaskId → Option Cell
  | 0, prev, id => if id.index? = none then some ⟨id, prev⟩ else none
  | steps + 1, prev, id =>
    match id.index? with
    | none => some ⟨id, prev⟩
    | some index => do
        let rank ← ranks[index]?
        if priority.outranks rank then return ⟨id, prev⟩
        let cell ← stored.cells[index]?
        stored.search ranks priority steps id cell.next

/-- Insertion of an id, which has to name a place of the table unless it is below zero. -/
def insert (stored : ReadyCells n) (ranks : Vector Priority n) (id : TaskId) : Option (ReadyCells n) :=
  match id.index? with
  | none => some stored
  | some index => do
      guard (index < n)
      if stored.contains id then return stored
      let priority ← ranks[index]?
      let gap ← stored.search ranks priority n .nobody stored.head
      let linked ← stored.change index fun _ => gap
      let linked ← linked.setNext gap.prev id
      linked.setPrev gap.next id

def remove (stored : ReadyCells n) (id : TaskId) : Option (ReadyCells n) :=
  if stored.contains id then
    match id.index? with
    | none => some stored
    | some index => do
        let cell ← stored.cells[index]?
        let unlinked ← stored.setNext cell.prev cell.next
        let unlinked ← unlinked.setPrev cell.next cell.prev
        unlinked.change index fun _ => ⟨.nobody, .nobody⟩
  else some stored

end ReadyCells

namespace Links

/-- The links of a place as they are stored. -/
def stored {n : Nat} (links : Links n) : Cell := ⟨.ofPlace? links.next, .ofPlace? links.prev⟩

end Links

namespace ReadyList

variable {n : Nat} {list : ReadyList n}

def stored (list : ReadyList n) : ReadyCells n := ⟨.ofPlace? list.head, list.links.map Links.stored⟩

theorem index?_ofPlace? (small : n ≤ maxTasks) (place : Option (Fin n)) :
    (TaskId.ofPlace? place).index? = place.map Fin.val := by
  cases place with
  | none => exact TaskId.index?_nobody
  | some place => exact TaskId.index?_ofIndex (Nat.lt_of_lt_of_le place.isLt (Nat.le_trans small (by decide)))

theorem ofPlace?_inj (small : n ≤ maxTasks) {place other : Option (Fin n)} :
    TaskId.ofPlace? place = TaskId.ofPlace? other ↔ place = other := by
  constructor
  · intro same
    have index := index?_ofPlace? small place
    rw [same, index?_ofPlace? small other] at index
    exact ((Option.map_inj_right fun _ _ => Fin.eq_of_val_eq).mp index).symm
  · rintro rfl
    rfl

theorem ofPlace?_bne_nobody (small : n ≤ maxTasks) (place : Option (Fin n)) :
    (TaskId.ofPlace? place != .nobody) = place.isSome := by
  have isNobody : TaskId.ofPlace? place = TaskId.ofPlace? none ↔ place = none := ofPlace?_inj small
  rw [Bool.eq_iff_iff, bne_iff_ne, Option.isSome_iff_ne_none]
  exact not_congr isNobody

theorem ofPlace?_beq (small : n ≤ maxTasks) (place other : Option (Fin n)) :
    (TaskId.ofPlace? place == TaskId.ofPlace? other) = (place == other) := by
  rw [Bool.eq_iff_iff, beq_iff_eq, beq_iff_eq]
  exact ofPlace?_inj small

theorem cells_get? (place : Fin n) : list.stored.cells[place.val]? = some (list.links.get place).stored := by
  rw [getElem?_eq_get]
  exact congrArg some (Vector.getElem_map ..)

theorem change_stored {place : Fin n} {change : Cell → Cell} {links : Links n}
    (linksEq : change (list.links.get place).stored = links.stored) :
    list.stored.change place change = some (list.setLinks place links).stored := by
  rw [ReadyCells.change, cells_get?, Option.bind_eq_bind, Option.bind_some, store?_eq, linksEq]
  simp only [stored, setLinks, Vector.map_set, Option.bind_eq_bind, Option.bind_some, Option.pure_def]

theorem setNext_stored (small : n ≤ maxTasks) (place next : Option (Fin n)) :
    list.stored.setNext (.ofPlace? place) (.ofPlace? next) = some (list.setNext place next).stored := by
  rw [ReadyCells.setNext, index?_ofPlace? small]
  cases place with
  | none => rfl
  | some place => exact change_stored rfl

theorem setPrev_stored (small : n ≤ maxTasks) (place prev : Option (Fin n)) :
    list.stored.setPrev (.ofPlace? place) (.ofPlace? prev) = some (list.setPrev place prev).stored := by
  rw [ReadyCells.setPrev, index?_ofPlace? small]
  cases place with
  | none => rfl
  | some place => exact change_stored rfl

theorem contains_stored (small : n ≤ maxTasks) (place : Fin n) :
    list.stored.contains (.ofIndex place) = list.contains place := by
  have index : (TaskId.ofIndex place).index? = some place.val := index?_ofPlace? small (some place)
  have isHead : (list.stored.head == .ofIndex place) = (list.head == some place) :=
    ofPlace?_beq small list.head (some place)
  rw [ReadyCells.contains, index, Option.bind_some, cells_get?]
  dsimp only [Links.stored]
  rw [isHead, ofPlace?_bne_nobody small, ofPlace?_bne_nobody small, Bool.or_assoc]
  rfl

theorem search_stored (small : n ≤ maxTasks) (rank : Fin n → Priority) (priority : Priority) (steps : Nat)
    (prev place : Option (Fin n)) :
    list.stored.search (.ofFn rank) priority steps (.ofPlace? prev) (.ofPlace? place) =
      (list.gap? rank priority steps prev place).map Links.stored := by
  induction steps generalizing prev place with
  | zero =>
    rw [ReadyCells.search, index?_ofPlace? small]
    cases place <;> rfl
  | succ steps ih =>
    rw [ReadyCells.search, index?_ofPlace? small]
    cases place with
    | none => rfl
    | some place =>
      have found : (Vector.ofFn rank)[place.val]? = some (rank place) := by
        rw [getElem?_eq_get]
        exact congrArg some (Vector.getElem_ofFn ..)
      simp only [Option.map_some, found, cells_get?, Option.bind_eq_bind, Option.bind_some, gap?]
      split
      · rfl
      · exact ih (some place) (list.next place)

/-- An insertion that finds its gap is done on what is stored. -/
theorem insert_stored (small : n ≤ maxTasks) {rank : Fin n → Priority} {place : Fin n} {after : ReadyList n}
    (inserted : list.insert rank place = .ok after) :
    list.stored.insert (.ofFn rank) (.ofIndex place) = some after.stored := by
  have index : (TaskId.ofIndex place).index? = some place.val := index?_ofPlace? small (some place)
  have found : (Vector.ofFn rank)[place.val]? = some (rank place) := by
    rw [getElem?_eq_get]
    exact congrArg some (Vector.getElem_ofFn ..)
  have searched : list.stored.search (.ofFn rank) (rank place) n .nobody list.stored.head =
      (list.gap? rank (rank place) n none list.head).map Links.stored :=
    search_stored small rank (rank place) n none list.head
  rw [ReadyList.insert] at inserted
  rw [ReadyCells.insert, index]
  have inTable : (guard (place.val < n) : Option Unit) = some () := if_pos place.isLt
  change (guard (place.val < n) >>= _) = _
  rw [inTable]
  simp only [Option.pure_def, Option.bind_eq_bind, Option.bind_some, contains_stored small]
  split at inserted
  · next contained =>
    cases inserted
    rw [if_pos contained]
  · next absent =>
    rw [if_neg absent, found, Option.bind_some]
    split at inserted
    · next gap isGap =>
      cases inserted
      rw [isGap] at searched
      have changed : list.stored.change place (fun _ => gap.stored) = some (list.setLinks place gap).stored :=
        change_stored rfl
      rw [searched, Option.map_some, Option.bind_some, changed, Option.bind_some]
      have linked : (list.setLinks place gap).stored.setNext gap.stored.prev (.ofIndex place) =
          some ((list.setLinks place gap).setNext gap.prev (some place)).stored := setNext_stored small gap.prev (some place)
      rw [linked, Option.bind_some]
      exact setPrev_stored small gap.next (some place)
    · cases inserted

theorem remove_stored (small : n ≤ maxTasks) (place : Fin n) :
    list.stored.remove (.ofIndex place) = some (list.remove place).stored := by
  have index : (TaskId.ofIndex place).index? = some place.val := index?_ofPlace? small (some place)
  rw [ReadyCells.remove, contains_stored small, ReadyList.remove]
  split
  · generalize linksEq : list.links.get place = links
    have nextSet : list.stored.setNext (.ofPlace? links.prev) (.ofPlace? links.next) =
        some (list.setNext links.prev links.next).stored := setNext_stored small links.prev links.next
    have prevSet : (list.setNext links.prev links.next).stored.setPrev (.ofPlace? links.next) (.ofPlace? links.prev) =
        some ((list.setNext links.prev links.next).setPrev links.next links.prev).stored :=
      setPrev_stored small links.next links.prev
    rw [index]
    simp only [cells_get?, linksEq, Option.bind_eq_bind, Option.bind_some]
    dsimp only [Links.stored]
    rw [nextSet, Option.bind_some, prevSet, Option.bind_some]
    exact change_stored rfl
  · rfl

end ReadyList

/-! ## Mailboxes -/

/-- A mailbox as it is stored. -/
structure MailboxBytes (width : Width) where
  slots : Vector (Entry width) mailboxCapacity
  head : UInt8
  count : UInt8

namespace MailboxBytes

variable {width : Width}

def slot? (box : MailboxBytes width) (position : Nat) : Option Nat := do
  let sum ← sum? wordSize box.head.toNat position
  return sum % mailboxCapacity

def entryAt? (box : MailboxBytes width) (position : Nat) : Option (Entry width) := do
  let slot ← box.slot? position
  box.slots[slot]?

def push (box : MailboxBytes width) (entry : Entry width) : Option (Except MailError (MailboxBytes width)) := do
  if box.count.toNat = mailboxCapacity then return .error .fifoFull
  let slot ← box.slot? box.count.toNat
  let slots ← store? box.slots slot entry
  let count ← sum? UInt8.size box.count.toNat 1
  return .ok { box with slots := slots, count := .ofNat count }

def senders (box : MailboxBytes width) : Option TaskMask :=
  (List.range box.count.toNat).foldlM (fun mask position => do
    let entry ← box.entryAt? position
    return mask ∪ TaskMask.of entry.sender) TaskMask.empty

/-- The first of some positions with an entry from a wanted sender. -/
def find? (box : MailboxBytes width) (wanted : TaskMask) : List Nat → Option (Option Nat)
  | [] => some none
  | position :: rest => do
      let entry ← box.entryAt? position
      if wanted.contains entry.sender then return some position
      box.find? wanted rest

/-- Move the entries behind some positions one place forward. -/
def closeRanks (box : MailboxBytes width) (slots : Vector (Entry width) mailboxCapacity) (positions : List Nat) :
    Option (Vector (Entry width) mailboxCapacity) :=
  positions.foldlM (fun slots position => do
    let target ← box.slot? position
    let behind ← sum? wordSize position 1
    let source ← box.slot? behind
    let entry ← slots[source]?
    store? slots target entry) slots

def dropAt (box : MailboxBytes width) (position : Nat) : Option (MailboxBytes width) := do
  let last ← difference? box.count.toNat 1
  if position = 0 then
    let first ← box.slot? 0
    let slots ← store? box.slots first Entry.empty
    let second ← box.slot? 1
    return ⟨slots, .ofNat second, .ofNat last⟩
  else
    let slots ← box.closeRanks box.slots (List.range' position (last - position))
    let slot ← box.slot? last
    let slots ← store? slots slot Entry.empty
    return ⟨slots, box.head, .ofNat last⟩

def take (box : MailboxBytes width) (wanted : TaskMask) :
    Option (Except MailError (Entry width × MailboxBytes width)) := do
  if box.count = 0 then return .error .fifoEmpty
  match ← box.find? wanted (List.range' 0 box.count.toNat) with
  | none => return .error .receiveMismatch
  | some position => do
      let entry ← box.entryAt? position
      let dropped ← box.dropAt position
      return .ok (entry, dropped)

end MailboxBytes

namespace Mailbox

variable {width : Width} (box : Mailbox width)

def bytes : MailboxBytes width := ⟨box.slots, .ofNat box.head, .ofNat box.count⟩

theorem head_bytes : box.bytes.head.toNat = box.head :=
  UInt8.toNat_ofNat_of_lt' (Nat.lt_trans box.head_lt (by decide))

theorem count_bytes : box.bytes.count.toNat = box.count :=
  UInt8.toNat_ofNat_of_lt' (Nat.lt_of_le_of_lt box.count_le (by decide))

theorem slot?_bytes {position : Nat} (small : position ≤ mailboxCapacity) :
    box.bytes.slot? position = some (box.slot position).val := by
  have fits : box.bytes.head.toNat + position < wordSize := by
    rw [head_bytes]
    have headLt := box.head_lt
    simp only [wordSize, UInt32.size, mailboxCapacity] at *
    omega
  rw [MailboxBytes.slot?, sum?_eq fits, head_bytes]
  rfl

theorem entryAt?_bytes {position : Nat} (small : position ≤ mailboxCapacity) :
    box.bytes.entryAt? position = some (box.entryAt position) := by
  rw [MailboxBytes.entryAt?, slot?_bytes box small, Option.bind_eq_bind, Option.bind_some]
  exact getElem?_eq_get box.slots (box.slot position)

theorem push_bytes (entry : Entry width) : box.bytes.push entry = some ((box.push entry).map Mailbox.bytes) := by
  rw [MailboxBytes.push, count_bytes, push]
  split
  · rfl
  · next free =>
    have room : box.count < mailboxCapacity := Nat.lt_of_le_of_ne box.count_le free
    have fits : box.count + 1 < UInt8.size := Nat.lt_of_le_of_lt room (by decide)
    simp only [Option.pure_def, Option.bind_eq_bind, Option.bind_some, slot?_bytes box box.count_le, sum?_eq fits]
    rw [bytes, store?_eq]
    rfl

theorem senders_bytes : box.bytes.senders = some box.senders := by
  rw [MailboxBytes.senders, count_bytes, senders, entries, List.foldl_map]
  apply foldlM_eq_some
  intro mask position member
  have inside : position < box.count := List.mem_range.mp member
  rw [entryAt?_bytes box (Nat.le_trans (Nat.le_of_lt inside) box.count_le)]
  rfl

/-- The search goes by positions, and finds the first entry from a wanted sender. -/
theorem find?_bytes (wanted : TaskMask) (start count : Nat) (few : start + count ≤ mailboxCapacity) :
    box.bytes.find? wanted (List.range' start count) =
      some ((((List.range' start count).map box.entryAt).findIdx? fun entry => wanted.contains entry.sender).map
        (start + ·)) := by
  induction count generalizing start with
  | zero => rfl
  | succ count ih =>
    have first : start ≤ mailboxCapacity := by omega
    rw [List.range'_succ, MailboxBytes.find?, entryAt?_bytes box first, Option.bind_eq_bind, Option.bind_some,
      List.map_cons, List.findIdx?_cons]
    split
    · rfl
    · rw [ih (start + 1) (by omega), Option.map_map]
      congr 2
      funext position
      simp only [Function.comp_apply]
      omega

theorem closeRanks_bytes (slots : Vector (Entry width) mailboxCapacity) (start count : Nat)
    (few : start + count ≤ mailboxCapacity) :
    box.bytes.closeRanks slots (List.range' start count) =
      some ((List.range' start count).foldl
        (fun slots position => slots.set (box.slot position) (slots.get (box.slot (position + 1)))) slots) := by
  apply foldlM_eq_some
  intro slots position member
  obtain ⟨-, inside⟩ := List.mem_range'_1.mp member
  have behind : position + 1 ≤ mailboxCapacity := by omega
  have fits : position + 1 < wordSize := Nat.lt_of_le_of_lt behind (by decide)
  rw [slot?_bytes box (by omega), sum?_eq fits]
  simp only [Option.bind_eq_bind, Option.bind_some, slot?_bytes box behind, getElem?_eq_get, store?_eq]

/-- What is dropped is in the mailbox, so the mailbox is not empty. -/
theorem dropAt_bytes {position : Nat} (inside : position < box.count) :
    box.bytes.dropAt position = some (box.dropAt position).bytes := by
  have most := box.count_le
  rw [MailboxBytes.dropAt, count_bytes, difference?_eq (by omega), Option.bind_eq_bind, Option.bind_some, dropAt]
  split
  · have first : box.bytes.slot? 0 = some (box.slot 0).val := slot?_bytes box (by omega)
    have second : box.bytes.slot? 1 = some (box.slot 1).val := slot?_bytes box (by decide)
    simp only [first, second, Option.bind_eq_bind, Option.bind_some]
    rw [bytes, store?_eq]
    rfl
  · rw [closeRanks_bytes box _ _ _ (by omega), Option.bind_eq_bind, Option.bind_some, slot?_bytes box (by omega)]
    simp only [Option.bind_some, store?_eq]
    rfl

theorem take_bytes (wanted : TaskMask) :
    box.bytes.take wanted = some ((box.take wanted).map fun found => (found.1, found.2.bytes)) := by
  have isEmptyIff : box.bytes.count = 0 ↔ box.isEmpty = true := by
    rw [isEmpty, beq_iff_eq, ← count_bytes, ← UInt8.toNat_inj]
    rfl
  rw [MailboxBytes.take, take]
  by_cases empty : box.isEmpty = true
  · rw [if_pos (isEmptyIff.mpr empty), if_pos empty]
    rfl
  · have searched := find?_bytes box wanted 0 box.count (by rw [Nat.zero_add]; exact box.count_le)
    rw [← List.range_eq_range'] at searched
    rw [if_neg fun zero => empty (isEmptyIff.mp zero), if_neg empty, count_bytes, ← List.range_eq_range', searched,
      ← entries]
    cases found : box.entries.findIdx? fun entry => wanted.contains entry.sender with
    | none => rfl
    | some position =>
      have inside : position < box.count := by
        obtain ⟨inside, -⟩ := List.findIdx?_eq_some_iff_getElem.mp found
        rwa [length_entries] at inside
      have small : position ≤ mailboxCapacity := Nat.le_trans (Nat.le_of_lt inside) box.count_le
      simp only [Option.bind_eq_bind, Option.bind_some, Option.map_some, Nat.zero_add, entryAt?_bytes box small,
        dropAt_bytes box inside]
      rfl

end Mailbox

/-! ## The trace -/

namespace Trace.Ring

variable {α : Type} {depth : Nat}

/-- Start a run in the slot after an index. -/
def startRun? (ring : Ring α depth) (last : Nat) (line : UInt16) (payload : α) : Option (Ring α depth) := do
  let next := (last + 1) % wordSize
  let index := if depth ≤ next then 0 else next
  let used ← ring.slots[index]?
  let slots ← store? ring.slots index ⟨line, used.generation + 1, 1, payload⟩
  return ⟨some index, slots⟩

/-- Record an event. Before the first one the index is the greatest word, which is past the slots. -/
def recordWord? [DecidableEq α] (ring : Ring α depth) (line : UInt16) (payload : α) : Option (Ring α depth) :=
  let last := ring.last.getD (wordSize - 1)
  match ring.slots[last]? with
  | some newest =>
      if newest.line = line ∧ newest.payload = payload then
        match sum? UInt32.size newest.count.toNat 1 with
        | some count => do
            let slots ← store? ring.slots last { newest with count := .ofNat count }
            return ⟨ring.last, slots⟩
        | none => ring.startRun? last line payload
      else ring.startRun? last line payload
  | none => ring.startRun? last line payload

variable {ring : Ring α depth}

/-- The word after an index wraps around to the first slot, as the index does. -/
theorem nextIndex_eq (hasSlot : 0 < depth) (few : depth < wordSize) {last : Nat} (small : last < wordSize) :
    (if depth ≤ (last + 1) % wordSize then 0 else (last + 1) % wordSize) = if last + 1 < depth then last + 1 else 0 := by
  by_cases wraps : last + 1 = wordSize
  · rw [wraps, Nat.mod_self, if_neg (by omega)]
    split
    · omega
    · rfl
  · rw [Nat.mod_eq_of_lt (by omega)]
    by_cases inside : last + 1 < depth
    · rw [if_neg (by omega), if_pos inside]
    · rw [if_pos (by omega), if_neg inside]

theorem startRun?_eq (hasSlot : 0 < depth) (few : depth < wordSize)
    (isWord : ∀ last, ring.last = some last → last < wordSize) (line : UInt16) (payload : α) :
    ring.startRun? (ring.last.getD (wordSize - 1)) line payload = some (ring.startRun hasSlot line payload) := by
  have inside : ring.nextIndex < depth := by
    unfold nextIndex
    split
    · split <;> omega
    · exact hasSlot
  have indexEq : (if depth ≤ (ring.last.getD (wordSize - 1) + 1) % wordSize then 0
      else (ring.last.getD (wordSize - 1) + 1) % wordSize) = ring.nextIndex := by
    unfold nextIndex
    cases isLast : ring.last with
    | none =>
      rw [Option.getD_none, nextIndex_eq hasSlot few (by decide)]
      exact if_neg (Nat.not_lt.mpr (Nat.le_of_lt few))
    | some last => rw [Option.getD_some, nextIndex_eq hasSlot few (isWord last isLast)]
  rw [startRun?, indexEq]
  have found : ring.slots[ring.nextIndex]? = some ring.slots[ring.nextIndex] := Vector.getElem?_eq_getElem inside
  simp only [found, Option.bind_eq_bind, Option.bind_some, store?, dif_pos inside]
  rfl

theorem count_ne_iff (count : UInt32) : count ≠ 0xffffffff ↔ count.toNat + 1 < UInt32.size := by
  have small : count.toNat < UInt32.size := count.toNat_lt_size
  have full : (0xffffffff : UInt32).toNat + 1 = UInt32.size := by decide
  rw [ne_eq, ← UInt32.toNat_inj]
  omega

/-- An event is recorded in words, since the index wraps and a full count starts a new run. -/
theorem recordWord?_eq [DecidableEq α] (hasSlot : 0 < depth) (few : depth < wordSize)
    (isWord : ∀ last, ring.last = some last → last < wordSize) (line : UInt16) (payload : α) :
    ring.recordWord? line payload = some (ring.record hasSlot line payload) := by
  have started := startRun?_eq hasSlot few isWord line payload
  rw [recordWord?, record, continues, newest?]
  cases isLast : ring.last with
  | none =>
    rw [isLast] at started
    have absent : ring.slots[wordSize - 1]? = none := Vector.getElem?_eq_none (by omega)
    rw [Option.getD_none, absent]
    exact started
  | some last =>
    rw [isLast, Option.getD_some] at started
    rw [Option.getD_some, Option.bind_some]
    by_cases inside : last < depth
    · have found : ring.slots[last]? = some ring.slots[last] := Vector.getElem?_eq_getElem inside
      rw [found]
      dsimp only
      generalize newestEq : ring.slots[last] = newest
      by_cases same : newest.line = line ∧ newest.payload = payload
      · by_cases grows : newest.count ≠ 0xffffffff
        · have fits := (count_ne_iff newest.count).mp grows
          have counted : UInt32.ofNat (newest.count.toNat + 1) = newest.count + 1 := by
            rw [UInt32.ofNat_add, UInt32.ofNat_toNat]
            rfl
          rw [if_pos same, sum?_eq fits, if_pos (by simp [same, grows])]
          dsimp only
          rw [counted]
          simp only [store?, dif_pos inside, Option.bind_eq_bind, Option.bind_some, extendRun, isLast, changeSlot,
            newestEq]
          rfl
        · have full : ¬newest.count.toNat + 1 < UInt32.size := fun fits => grows ((count_ne_iff _).mpr fits)
          rw [if_pos same, sum?, if_neg full, if_neg (by simp [grows])]
          exact started
      · rw [if_neg same, if_neg]
        · exact started
        · simp only [decide_eq_true_eq]
          exact fun continued => same ⟨continued.1, continued.2.1⟩
    · have absent : ring.slots[last]? = none := Vector.getElem?_eq_none (by omega)
      rw [absent]
      exact started

end Trace.Ring

end CoopKernel
