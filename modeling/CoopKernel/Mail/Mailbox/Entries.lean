import CoopKernel.Mail.Mailbox

/-! # What mailbox operations do to the entries

`Mailbox.entries` is the view of a mailbox: `entries_push` says that a push appends, `entries_take` that
a take removes the first entry whose sender is wanted and leaves the others in order. No later
statement needs to look at slots.
-/

namespace CoopKernel.Mailbox

variable {width : Width}

/-- Positions within the capacity have slots of their own. -/
theorem slot_inj {box : Mailbox width} {p q : Nat} (hp : p < mailboxCapacity) (hq : q < mailboxCapacity)
    (same : box.slot p = box.slot q) : p = q := by
  simp only [slot, mailboxCapacity, Fin.mk.injEq] at same hp hq
  omega

/-- Reading a slot after writing one. -/
theorem get_set (slots : Vector (Entry width) mailboxCapacity) (i j : Fin mailboxCapacity) (entry : Entry width) :
    (slots.set i entry).get j = if i = j then entry else slots.get j := by
  change (slots.set i entry)[j.val] = if i = j then entry else slots[j.val]
  simp only [Vector.getElem_set, Fin.val_inj]

@[simp] theorem length_entries (box : Mailbox width) : box.entries.length = box.count := by
  simp [entries]

@[simp] theorem entries_empty : (empty : Mailbox width).entries = [] := rfl

theorem getElem?_entries (box : Mailbox width) (position : Nat) :
    box.entries[position]? = if position < box.count then some (box.entryAt position) else none := by
  by_cases inside : position < box.count <;> simp [entries, inside]

/-- A push appends. -/
theorem entries_push {box after : Mailbox width} {entry : Entry width} (pushed : box.push entry = .ok after) :
    after.entries = box.entries ++ [entry] := by
  unfold push at pushed
  split at pushed
  · cases pushed
  next free =>
    have room : box.count < mailboxCapacity := Nat.lt_of_le_of_ne box.count_le free
    cases pushed
    simp only [entries, List.range_succ, List.map_append, List.map_cons, List.map_nil]
    congr 1
    · apply List.map_congr_left
      intro position member
      have before : position < box.count := List.mem_range.mp member
      simp only [entryAt, get_set]
      rw [if_neg]
      · rfl
      · intro same
        have := slot_inj room (Nat.lt_trans before room) same
        omega
    · simp only [entryAt, get_set]
      exact congrArg (fun e => [e]) (if_pos rfl)

/-- A push is refused for want of room only. -/
theorem push_error {box : Mailbox width} {entry : Entry width} {error : MailError}
    (refused : box.push entry = .error error) : box.isFull = true ∧ error = .fifoFull := by
  unfold push at refused
  split at refused
  · next full =>
    cases refused
    exact ⟨beq_iff_eq.mpr full, rfl⟩
  · cases refused

theorem isFull_iff {box : Mailbox width} : box.isFull = true ↔ box.entries.length = mailboxCapacity := by
  rw [length_entries]
  exact beq_iff_eq

/-- Moving some entries forward lets each show the one behind it; the others stay. -/
theorem closeRanks_get (box : Mailbox width) (position count p : Nat) (few : position + count < mailboxCapacity)
    (small : p < mailboxCapacity) :
    ((List.range' position count).foldl
      (fun slots q => slots.set (box.slot q) (slots.get (box.slot (q + 1)))) box.slots).get (box.slot p) =
      box.entryAt (if position ≤ p ∧ p < position + count then p + 1 else p) := by
  induction count generalizing p with
  | zero => simp [entryAt, show ¬(position ≤ p ∧ p < position) by omega]
  | succ count ih =>
    rw [List.range'_1_concat, List.foldl_append]
    simp only [List.foldl_cons, List.foldl_nil, get_set]
    rw [ih (position + count + 1) (by omega) (by omega), ih p (by omega) small]
    by_cases here : p = position + count
    · subst here
      rw [if_pos rfl, if_neg (by omega), if_pos (by omega)]
    · rw [if_neg (fun same => here (slot_inj (by omega) small same).symm)]
      congr 1
      by_cases inside : position ≤ p ∧ p < position + count
      · rw [if_pos inside, if_pos (by omega)]
      · rw [if_neg inside, if_neg (by omega)]

theorem count_dropAt (box : Mailbox width) (position : Nat) : (box.dropAt position).count = box.count - 1 := by
  unfold dropAt
  split <;> rfl

/-- Without its oldest entry a mailbox shows each entry one position earlier, and a blank in the slot that became the
last one. -/
theorem entryAt_dropAt_zero (box : Mailbox width) {p : Nat} (small : p < mailboxCapacity) :
    (box.dropAt 0).entryAt p = if p + 1 = mailboxCapacity then Entry.empty else box.entryAt (p + 1) := by
  have moved : (box.dropAt 0).slot p = box.slot (p + 1) := by
    simp only [dropAt, ↓reduceIte, slot, mailboxCapacity, Fin.mk.injEq]
    omega
  have slots : (box.dropAt 0).slots = box.slots.set (box.slot 0) Entry.empty := by
    rw [dropAt, if_pos rfl]
  rw [entryAt, moved, slots, get_set]
  by_cases last : p + 1 = mailboxCapacity
  · have around : box.slot 0 = box.slot (p + 1) := by
      rw [last]
      simp [slot]
    rw [if_pos around, if_pos last]
  · have apart : box.slot 0 ≠ box.slot (p + 1) := fun same => by
      have := slot_inj (by decide) (by omega) same
      omega
    rw [if_neg apart, if_neg last, entryAt]

/-- Without a later entry a mailbox shows the entries behind it one position earlier, and a blank where the last one
was. -/
theorem entryAt_dropAt_later (box : Mailbox width) {position p : Nat} (later : position ≠ 0)
    (inside : position < box.count) (small : p < mailboxCapacity) :
    (box.dropAt position).entryAt p =
      if p = box.count - 1 then Entry.empty
      else box.entryAt (if position ≤ p ∧ p < box.count - 1 then p + 1 else p) := by
  have most := box.count_le
  have slots : (box.dropAt position).slots = (box.closeRanks position).set (box.slot (box.count - 1)) Entry.empty := by
    rw [dropAt, if_neg later]
  have stays : (box.dropAt position).slot p = box.slot p := by
    rw [dropAt, if_neg later]
    rfl
  rw [entryAt, stays, slots, get_set]
  by_cases last : p = box.count - 1
  · rw [if_pos (congrArg box.slot last.symm), if_pos last]
  · have apart : box.slot (box.count - 1) ≠ box.slot p := fun same =>
      last (slot_inj (by omega) small same).symm
    rw [if_neg apart, if_neg last, closeRanks,
      closeRanks_get box position (box.count - 1 - position) p (by omega) small]
    congr 2
    rw [show position + (box.count - 1 - position) = box.count - 1 by omega]

/-- Dropping a position erases it from the entries. -/
theorem entries_dropAt (box : Mailbox width) {position : Nat} (inside : position < box.count) :
    (box.dropAt position).entries = box.entries.eraseIdx position := by
  have most := box.count_le
  apply List.ext_getElem?
  intro p
  rw [List.getElem?_eraseIdx, getElem?_entries, getElem?_entries, getElem?_entries, count_dropAt]
  by_cases there : p < box.count - 1
  · have value : (box.dropAt position).entryAt p = box.entryAt (if position ≤ p then p + 1 else p) := by
      by_cases first : position = 0
      · subst first
        rw [entryAt_dropAt_zero box (by omega), if_neg (by omega), if_pos (Nat.zero_le p)]
      · rw [entryAt_dropAt_later box first inside (by omega), if_neg (by omega)]
        simp only [there, and_true]
    rw [if_pos there, value]
    by_cases behind : position ≤ p
    · rw [if_pos behind, if_neg (by omega), if_pos (by omega)]
    · rw [if_neg behind, if_pos (by omega), if_pos (by omega)]
  · rw [if_neg there]
    by_cases before : p < position
    · omega
    · rw [if_neg before, if_neg (by omega)]

/-- A take removes the first entry whose sender is wanted. -/
theorem entries_take {box after : Mailbox width} {wanted : TaskMask} {entry : Entry width}
    (taken : box.take wanted = .ok (entry, after)) :
    ∃ position, box.entries.findIdx? (fun entry => wanted.contains entry.sender) = some position ∧
      box.entries[position]? = some entry ∧ after.entries = box.entries.eraseIdx position := by
  unfold take at taken
  split at taken
  · cases taken
  · split at taken
    · cases taken
    · next position found =>
      cases taken
      have inside : position < box.count := by
        have bound := (List.findIdx?_eq_some_iff_getElem.mp found).1
        rwa [length_entries] at bound
      exact ⟨position, found, by rw [getElem?_entries, if_pos inside], entries_dropAt box inside⟩

/-- A take is refused by an empty mailbox, and by one without an entry from a wanted sender. -/
theorem take_error_iff {box : Mailbox width} {wanted : TaskMask} {error : MailError} :
    box.take wanted = .error error ↔ error = .fifoEmpty ∧ box.entries = [] ∨
      error = .receiveMismatch ∧ box.entries ≠ [] ∧ ∀ entry ∈ box.entries, wanted.contains entry.sender = false := by
  have emptyIff : box.isEmpty = true ↔ box.entries = [] := by
    rw [← List.length_eq_zero_iff, length_entries]
    exact beq_iff_eq
  unfold take
  by_cases empty : box.isEmpty = true
  · rw [if_pos empty, Except.error.injEq]
    constructor
    · rintro rfl
      exact .inl ⟨rfl, emptyIff.mp empty⟩
    · rintro (⟨rfl, -⟩ | ⟨-, someEntry, -⟩)
      · rfl
      · exact absurd (emptyIff.mp empty) someEntry
  · have someEntry : box.entries ≠ [] := fun none => empty (emptyIff.mpr none)
    rw [if_neg empty]
    split
    · next unwanted =>
      rw [Except.error.injEq]
      constructor
      · rintro rfl
        have unwanted := List.findIdx?_eq_none_iff.mp unwanted
        exact .inr ⟨rfl, someEntry, fun entry inside => by simpa using unwanted entry inside⟩
      · rintro (⟨-, none⟩ | ⟨rfl, -⟩)
        · exact absurd none someEntry
        · rfl
    · next position found =>
      obtain ⟨inside, isWanted, -⟩ := List.findIdx?_eq_some_iff_getElem.mp found
      simp only [reduceCtorEq, someEntry, and_false, false_or, false_iff, not_and]
      intro _ _ unwanted
      cases (unwanted _ (List.getElem_mem inside)).symm.trans isWanted

/-- A take succeeds when an entry is from a wanted sender, and takes the oldest such entry. -/
theorem take_of_find? {box : Mailbox width} {wanted : TaskMask} {entry : Entry width}
    (found : box.entries.find? (fun entry => wanted.contains entry.sender) = some entry) :
    ∃ after, box.take wanted = .ok (entry, after) := by
  rw [List.find?_eq_bind_findIdx?_getElem?] at found
  obtain ⟨position, first, entryEq⟩ := Option.bind_eq_some_iff.mp found
  rw [getElem?_entries] at entryEq
  split at entryEq
  · next inside =>
    cases entryEq
    have buffered : box.isEmpty = false := beq_eq_false_iff_ne.mpr (Nat.ne_zero_of_lt inside)
    refine ⟨box.dropAt position, ?_⟩
    rw [take, buffered, if_neg Bool.false_ne_true, first]
  · cases entryEq

/-- The senders share a task with a set when an entry is from one of its members. -/
theorem intersects_senders (box : Mailbox width) (mask : TaskMask) :
    box.senders.intersects mask = box.entries.any fun entry => mask.contains entry.sender := by
  have gather (found : TaskMask) (entries : List (Entry width)) :
      (entries.foldl (fun mask entry => mask ∪ TaskMask.of entry.sender) found).intersects mask =
        (found.intersects mask || entries.any fun entry => mask.contains entry.sender) := by
    induction entries generalizing found with
    | nil => simp
    | cons entry rest ih =>
      rw [List.foldl_cons, ih, TaskMask.intersects_union, List.any_cons, Bool.or_assoc]
      rfl
  rw [senders, gather]
  simp [TaskMask.intersects, TaskMask.empty, TaskMask.isEmpty, Inter.inter, TaskMask.inter]

/-- A push succeeds when there is room. -/
theorem isFull_of_push {box after : Mailbox width} {entry : Entry width} (pushed : box.push entry = .ok after) :
    box.isFull = false := by
  unfold push at pushed
  split at pushed
  · cases pushed
  · next free => exact beq_eq_false_iff_ne.mpr free

end CoopKernel.Mailbox
