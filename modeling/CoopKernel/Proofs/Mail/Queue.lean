import CoopKernel.Mail.Mailbox.Entries

/-! # A mailbox is a bounded queue

Calls on a mailbox, in any order and number, against the same calls on a plain list of entries: they get
the same answers, and the entries of the mailbox are the list (`Mailbox.serves_queue`). A push appends
while there is room; a take removes the first entry from a wanted sender; a refused call changes
nothing. Beyond the entries the ring keeps an order of its own: a slot that is not in use is blank,
wherever the oldest entry is (`Blank`).
-/

namespace CoopKernel

variable {width : Width}

inductive MailboxCall (width : Width) where
  | push (entry : Entry width)
  | take (wanted : TaskMask)
  | clear
deriving DecidableEq, Repr

/-- What a call on a mailbox answers: why it was refused, or the entry that was taken, if it was to take one. -/
abbrev MailboxReply (width : Width) : Type := Except MailError (Option (Entry width))

/-- The answers to some calls, and what the last one leaves. -/
def serveAll {σ : Type} (serve : σ → MailboxCall width → MailboxReply width × σ) :
    σ → List (MailboxCall width) → List (MailboxReply width) × σ
  | state, [] => ([], state)
  | state, call :: rest =>
      let (reply, next) := serve state call
      let (replies, last) := serveAll serve next rest
      (reply :: replies, last)

/-- A call on a list of entries, oldest first, that has room for as many entries as a mailbox. -/
def serveQueue (queue : List (Entry width)) : MailboxCall width → MailboxReply width × List (Entry width)
  | .push entry => if queue.length < mailboxCapacity then (.ok none, queue ++ [entry]) else (.error .fifoFull, queue)
  | .take wanted =>
      if queue = [] then (.error .fifoEmpty, queue)
      else match queue.find? (wanted.contains ·.sender) with
        | some entry => (.ok (some entry), queue.eraseP (wanted.contains ·.sender))
        | none => (.error .receiveMismatch, queue)
  | .clear => (.ok none, [])

namespace Mailbox

variable {box after : Mailbox width}

/-- A call on a mailbox. A refused one leaves it as it is. -/
def serve (box : Mailbox width) : MailboxCall width → MailboxReply width × Mailbox width
  | .push entry => match box.push entry with
      | .ok after => (.ok none, after)
      | .error error => (.error error, box)
  | .take wanted => match box.take wanted with
      | .ok (entry, after) => (.ok (some entry), after)
      | .error error => (.error error, box)
  | .clear => (.ok none, empty)

/-! ## Slots that are not in use -/

/-- Behind the last entry the ring shows blanks up to its end. -/
def Blank (box : Mailbox width) : Prop :=
  ∀ position, box.count ≤ position → position < mailboxCapacity → box.entryAt position = Entry.empty

theorem blank_empty : (empty : Mailbox width).Blank := by
  intro position _ _
  change (Vector.replicate mailboxCapacity Entry.empty)[(empty.slot position).val] = Entry.empty
  rw [Vector.getElem_replicate]

theorem Blank.push {entry : Entry width} (blank : box.Blank) (pushed : box.push entry = .ok after) : after.Blank := by
  unfold Mailbox.push at pushed
  split at pushed
  · cases pushed
  · cases pushed
    intro position behind small
    have behind : box.count + 1 ≤ position := behind
    have apart : box.slot box.count ≠ box.slot position := fun same => by
      have := slot_inj (by omega) small same
      omega
    change (box.slots.set (box.slot box.count) entry).get (box.slot position) = Entry.empty
    rw [get_set, if_neg apart]
    exact blank position (by omega) small

theorem Blank.dropAt {position : Nat} (blank : box.Blank) (inside : position < box.count) :
    (box.dropAt position).Blank := by
  intro p behind small
  rw [count_dropAt] at behind
  by_cases first : position = 0
  · subst first
    rw [entryAt_dropAt_zero box small]
    split
    · rfl
    · exact blank (p + 1) (by omega) (by omega)
  · rw [entryAt_dropAt_later box first inside small]
    split
    · rfl
    · rw [if_neg (by omega)]
      exact blank p (by omega) small

theorem Blank.take {wanted : TaskMask} {entry : Entry width} (blank : box.Blank)
    (taken : box.take wanted = .ok (entry, after)) : after.Blank := by
  unfold Mailbox.take at taken
  split at taken
  · cases taken
  · split at taken
    · cases taken
    · next position found =>
      cases taken
      have inside := (List.findIdx?_eq_some_iff_getElem.mp found).1
      rw [length_entries] at inside
      exact blank.dropAt inside

theorem Blank.serve (blank : box.Blank) (call : MailboxCall width) : (box.serve call).2.Blank := by
  cases call with
  | push entry =>
    cases pushed : box.push entry with
    | ok after => simpa only [Mailbox.serve, pushed] using blank.push pushed
    | error error => simpa only [Mailbox.serve, pushed] using blank
  | take wanted =>
    cases taken : box.take wanted with
    | ok found => simpa only [Mailbox.serve, taken] using blank.take taken
    | error error => simpa only [Mailbox.serve, taken] using blank
  | clear => exact blank_empty

/-- Every slot has a position. -/
theorem exists_slot_eq (box : Mailbox width) (slot : Fin mailboxCapacity) :
    ∃ position < mailboxCapacity, box.slot position = slot := by
  have bound := box.head_lt
  have inRing := slot.isLt
  refine ⟨(slot + (mailboxCapacity - box.head)) % mailboxCapacity, Nat.mod_lt _ (by decide), ?_⟩
  rw [Mailbox.slot, Fin.ext_iff]
  simp only [mailboxCapacity] at bound inRing ⊢
  omega

/-! ## The entries -/

/-- A take that succeeds takes the first entry from a wanted sender. -/
theorem take_first {wanted : TaskMask} {entry : Entry width} (taken : box.take wanted = .ok (entry, after)) :
    box.entries.find? (wanted.contains ·.sender) = some entry ∧
      after.entries = box.entries.eraseP (wanted.contains ·.sender) := by
  obtain ⟨position, found, entryEq, afterEq⟩ := entries_take taken
  constructor
  · rw [List.find?_eq_bind_findIdx?_getElem?, found]
    exact entryEq
  · rw [List.eraseP_eq_eraseIdx, found]
    exact afterEq

/-- A call on a mailbox is the same call on its entries. -/
theorem serve_entries (box : Mailbox width) (call : MailboxCall width) :
    serveQueue box.entries call = ((box.serve call).1, (box.serve call).2.entries) := by
  cases call with
  | push entry =>
    cases pushed : box.push entry with
    | ok after =>
      have room : box.count < mailboxCapacity :=
        Nat.lt_of_le_of_ne box.count_le (beq_eq_false_iff_ne.mp (isFull_of_push pushed))
      simp only [serveQueue, serve, pushed, length_entries, room, ↓reduceIte, entries_push pushed]
    | error error =>
      obtain ⟨full, rfl⟩ := push_error pushed
      simp only [serveQueue, serve, pushed, isFull_iff.mp full, Nat.lt_irrefl, ↓reduceIte]
  | take wanted =>
    cases taken : box.take wanted with
    | ok found =>
      obtain ⟨entry, after⟩ := found
      obtain ⟨first, afterEq⟩ := take_first taken
      have buffered : box.entries ≠ [] := fun none => by
        rw [none] at first
        cases first
      simp only [serveQueue, serve, taken, buffered, ↓reduceIte, first, afterEq]
    | error error =>
      rcases take_error_iff.mp taken with ⟨rfl, none⟩ | ⟨rfl, buffered, unwanted⟩
      · simp only [serveQueue, serve, taken, none, ↓reduceIte]
      · have absent : box.entries.find? (wanted.contains ·.sender) = none :=
          List.find?_eq_none.mpr fun entry inside => by simp [unwanted entry inside]
        simp only [serveQueue, serve, taken, buffered, ↓reduceIte, absent]
  | clear => rfl

/-- Calls on a mailbox are the same calls on its entries, and leave blank what is not in use. -/
theorem serveAll_entries (blank : box.Blank) (calls : List (MailboxCall width)) :
    serveAll serveQueue box.entries calls =
        ((serveAll serve box calls).1, (serveAll serve box calls).2.entries) ∧
      (serveAll serve box calls).2.Blank := by
  induction calls generalizing box with
  | nil => exact ⟨rfl, blank⟩
  | cons call rest ih =>
    obtain ⟨same, blankLast⟩ := ih (blank.serve call)
    refine ⟨?_, blankLast⟩
    simp only [serveAll, serve_entries, same]

/-! ## The mailbox and its queue -/

/-- A mailbox that holds a queue, and nothing beside it. -/
structure Holds (box : Mailbox width) (queue : List (Entry width)) : Prop where
  entries_eq : box.entries = queue
  head_lt : box.head < mailboxCapacity
  count_le : box.count ≤ mailboxCapacity
  /-- The senders are the union of the masks of who sent what is in the queue. -/
  senders_eq : box.senders = (queue.map fun entry => TaskMask.of entry.sender).foldl (· ∪ ·) .empty
  contains_senders_iff : ∀ id, box.senders.contains id = true ↔
    ∃ entry ∈ queue, (TaskMask.of entry.sender).contains id = true
  /-- The senders tell whether a take would succeed. -/
  intersects_iff : ∀ wanted, box.senders.intersects wanted = true ↔ ∃ entry after, box.take wanted = .ok (entry, after)
  blank : ∀ slot, (∀ position < box.count, box.slot position ≠ slot) → box.slots.get slot = Entry.empty
  /-- A refused call leaves the ring as it is, slot by slot. -/
  refused : ∀ call error, (box.serve call).1 = .error error → (box.serve call).2 = box

/-- A take succeeds when the senders share a task with the wanted ones, and only then. -/
theorem intersects_senders_iff (box : Mailbox width) (wanted : TaskMask) :
    box.senders.intersects wanted = true ↔ ∃ entry after, box.take wanted = .ok (entry, after) := by
  rw [intersects_senders, List.any_eq_true, ← List.find?_isSome, Option.isSome_iff_exists]
  constructor
  · rintro ⟨entry, found⟩
    exact ⟨entry, take_of_find? found⟩
  · rintro ⟨entry, after, taken⟩
    exact ⟨entry, (take_first taken).1⟩

theorem contains_senders_iff (box : Mailbox width) (id : TaskId) :
    box.senders.contains id = true ↔ ∃ entry ∈ box.entries, (TaskMask.of entry.sender).contains id = true := by
  rw [TaskMask.contains, TaskMask.intersects_comm, intersects_senders, List.any_eq_true]
  simp only [TaskMask.contains, TaskMask.intersects_comm]

theorem serve_of_error {call : MailboxCall width} {error : MailError} (refused : (box.serve call).1 = .error error) :
    (box.serve call).2 = box := by
  cases call with
  | push entry =>
    cases pushed : box.push entry with
    | ok after => simp [serve, pushed] at refused
    | error error => simp [serve, pushed]
  | take wanted =>
    cases taken : box.take wanted with
    | ok found => simp [serve, taken] at refused
    | error error => simp [serve, taken]
  | clear => cases refused

theorem Blank.holds (blank : box.Blank) : box.Holds box.entries where
  entries_eq := rfl
  head_lt := box.head_lt
  count_le := box.count_le
  senders_eq := List.foldl_map.symm
  contains_senders_iff := box.contains_senders_iff
  intersects_iff := box.intersects_senders_iff
  blank slot unused := by
    obtain ⟨position, small, rfl⟩ := box.exists_slot_eq slot
    refine blank position (Nat.le_of_not_lt fun inside => ?_) small
    exact unused position inside rfl
  refused _ _ := serve_of_error

/-- Calls on a new mailbox get the answers of a bounded queue, and the mailbox holds that queue. -/
theorem serves_queue (calls : List (MailboxCall width)) :
    (serveAll serve empty calls).1 = (serveAll serveQueue [] calls).1 ∧
      (serveAll serve empty calls).2.Holds (serveAll serveQueue [] calls).2 := by
  obtain ⟨same, blank⟩ := serveAll_entries blank_empty calls
  rw [entries_empty] at same
  rw [same]
  exact ⟨rfl, blank.holds⟩

end Mailbox

end CoopKernel
