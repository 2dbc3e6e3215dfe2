import CoopKernel.Mail.Message
import CoopKernel.Mail.Error
import CoopKernel.Task.Mask

/-! # Mailboxes

A mailbox is a ring of four slots, filled behind the newest entry. Entries leave from the front; one
from the middle leaves a gap that the entries behind it close, so the order of arrival stays. The
view `Mailbox.entries` lists what is buffered, oldest first.
-/

namespace CoopKernel

def mailboxCapacity : Nat := 4

/-- A ring of entries: the oldest is in slot `head`, and `count` slots from there on are in use. -/
structure Mailbox (width : Width) where
  slots : Vector (Entry width) mailboxCapacity := .replicate mailboxCapacity Entry.empty
  head : Nat := 0
  count : Nat := 0
  head_lt : head < mailboxCapacity := by decide
  count_le : count ≤ mailboxCapacity := by decide
deriving DecidableEq, Repr

namespace Mailbox

variable {width : Width}

def empty : Mailbox width := {}

instance : Inhabited (Mailbox width) := ⟨empty⟩

def isEmpty (box : Mailbox width) : Bool := box.count == 0

def isFull (box : Mailbox width) : Bool := box.count == mailboxCapacity

/-- The slot of a position in order of arrival. -/
def slot (box : Mailbox width) (position : Nat) : Fin mailboxCapacity :=
  ⟨(box.head + position) % mailboxCapacity, Nat.mod_lt _ (by decide)⟩

/-- The entry at a position in order of arrival. -/
def entryAt (box : Mailbox width) (position : Nat) : Entry width := box.slots.get (box.slot position)

/-- What is buffered, oldest first. -/
def entries (box : Mailbox width) : List (Entry width) := (List.range box.count).map box.entryAt

def senders (box : Mailbox width) : TaskMask :=
  box.entries.foldl (fun mask entry => mask ∪ TaskMask.of entry.sender) TaskMask.empty

/-- Put an entry behind everything that is buffered. -/
def push (box : Mailbox width) (entry : Entry width) : Except MailError (Mailbox width) :=
  if full : box.count = mailboxCapacity then .error .fifoFull
  else .ok { box with
    slots := box.slots.set (box.slot box.count) entry
    count := box.count + 1
    count_le := Nat.lt_of_le_of_ne box.count_le full }

/-- Move the entries behind a position one place forward. The last of them stays in its old slot
too. -/
def closeRanks (box : Mailbox width) (position : Nat) : Vector (Entry width) mailboxCapacity :=
  (List.range' position (box.count - 1 - position)).foldl
    (fun slots p => slots.set (box.slot p) (slots.get (box.slot (p + 1)))) box.slots

/-- The mailbox after its entry at a position is gone, and its slot with it. -/
def dropAt (box : Mailbox width) (position : Nat) : Mailbox width :=
  if position = 0 then { box with
    slots := box.slots.set (box.slot 0) Entry.empty
    head := box.slot 1
    count := box.count - 1
    head_lt := (box.slot 1).isLt
    count_le := Nat.le_trans (Nat.sub_le _ _) box.count_le }
  else { box with
    slots := (box.closeRanks position).set (box.slot (box.count - 1)) Entry.empty
    count := box.count - 1
    count_le := Nat.le_trans (Nat.sub_le _ _) box.count_le }

/-- Take out the oldest entry whose sender is in a set. -/
def take (box : Mailbox width) (wanted : TaskMask) : Except MailError (Entry width × Mailbox width) :=
  if box.isEmpty then .error .fifoEmpty
  else match box.entries.findIdx? fun entry => wanted.contains entry.sender with
    | none => .error .receiveMismatch
    | some position => .ok (box.entryAt position, box.dropAt position)

end Mailbox

end CoopKernel
