import CoopKernel.Fault

/-! # Rings of trace records

A ring keeps the newest records of a program's events. A record tells the line that made it, how often
in a row, how often its slot was used, and the payload. An event like the newest one is counted there
instead of taking a slot of its own, so an idle loop does not wipe out the history. The view
`Ring.records` lists what is kept, oldest first.
-/

namespace CoopKernel.Trace

/-- A run of equal events. -/
structure Record (α : Type) where
  line : UInt16
  /-- How many runs this slot has held, in the arithmetic of 16 bits. -/
  generation : UInt16
  /-- The length of the run; zero marks a slot that was never used. -/
  count : UInt32
  payload : α
deriving DecidableEq, Repr, Inhabited

/-- A ring of `depth` slots and the index of the newest one. A debugger may write any index there,
also one past the slots. -/
structure Ring (α : Type) (depth : Nat) where
  last : Option Nat
  slots : Vector (Record α) depth
deriving DecidableEq, Repr

namespace Ring

variable {α : Type} {depth : Nat}

/-- A ring before any event; its slots hold a payload that no event has to have. -/
def new (blank : α) : Ring α depth := ⟨none, .replicate depth ⟨0, 0, 0, blank⟩⟩

def newest? (ring : Ring α depth) : Option (Record α) := ring.last.bind (ring.slots[·]?)

/-- The index after the newest one; past the last slot, and before the first event, it is zero. -/
def nextIndex (ring : Ring α depth) : Nat :=
  match ring.last with
  | some last => if last + 1 < depth then last + 1 else 0
  | none => 0

def startRun (ring : Ring α depth) (hasSlot : 0 < depth) (line : UInt16) (payload : α) : Ring α depth :=
  have inside : ring.nextIndex < depth := by unfold nextIndex; split <;> (try split) <;> omega
  let used := ring.slots[ring.nextIndex]
  { last := some ring.nextIndex
    slots := ring.slots.set ring.nextIndex ⟨line, used.generation + 1, 1, payload⟩ }

/-- Change the record in a slot; an index past the slots changes nothing. -/
def changeSlot (ring : Ring α depth) (index : Nat) (change : Record α → Record α) : Ring α depth :=
  if inside : index < depth then { ring with slots := ring.slots.set index (change ring.slots[index]) }
  else ring

/-- Count one more event in the slot of the newest record. -/
def extendRun (ring : Ring α depth) : Ring α depth :=
  match ring.last with
  | some last => ring.changeSlot last fun record => { record with count := record.count + 1 }
  | none => ring

/-- Whether an event belongs to the newest run: it has the same line and payload, and the count can
still grow. -/
def continues [DecidableEq α] (ring : Ring α depth) (line : UInt16) (payload : α) : Bool :=
  match ring.newest? with
  | some record => record.line = line ∧ record.payload = payload ∧ record.count ≠ 0xffffffff
  | none => false

def record [DecidableEq α] (ring : Ring α depth) (hasSlot : 0 < depth) (line : UInt16) (payload : α) :
    Ring α depth :=
  if ring.continues line payload then ring.extendRun else ring.startRun hasSlot line payload

/-- Record an event in a ring that may have no slot. -/
def record? [DecidableEq α] (ring : Ring α depth) (line : UInt16) (payload : α) :
    Except Fault (Ring α depth) :=
  if hasSlot : 0 < depth then .ok (ring.record hasSlot line payload) else .error .noTraceSlot

/-- What is kept, oldest first. -/
def records (ring : Ring α depth) : List (Record α) :=
  let start := match ring.last with
    | some last => last + 1
    | none => 0
  ((List.range depth).filterMap fun offset => ring.slots[(start + offset) % depth]?).filter (·.count ≠ 0)

def setCount (ring : Ring α depth) (index : Nat) (count : UInt32) : Ring α depth :=
  ring.changeSlot index fun record => { record with count := count }

def setGeneration (ring : Ring α depth) (index : Nat) (generation : UInt16) : Ring α depth :=
  ring.changeSlot index fun record => { record with generation := generation }

end Ring

end CoopKernel.Trace
