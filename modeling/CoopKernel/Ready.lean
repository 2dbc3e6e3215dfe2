import CoopKernel.Task.Desc
import CoopKernel.Fault

/-! # The ready list

Ready tasks form a doubly linked list whose links stand beside the table, one pair for each place. The
list is ordered by priority, and tasks of equal priority keep the order in which they came. A place is
in the list when it is the head or has a link; taking it out clears its links.

Links that were not cleared, as after `clear`, count as membership, and may even run in a circle. On a
circle without a lower priority the search for a place would not end, which is the fault
`Fault.endlessList`.
-/

namespace CoopKernel

/-- The neighbours of a place in the list. -/
structure Links (n : Nat) where
  next : Option (Fin n) := none
  prev : Option (Fin n) := none
deriving DecidableEq, Repr, Inhabited

namespace Links

def isLinked {n : Nat} (links : Links n) : Bool := links.next.isSome || links.prev.isSome

end Links

/-- A list of places of a table of `n` tasks. -/
structure ReadyList (n : Nat) where
  head : Option (Fin n) := none
  links : Vector (Links n) n := .replicate n {}
deriving DecidableEq, Repr

namespace ReadyList

variable {n : Nat}

def empty : ReadyList n := {}

instance : Inhabited (ReadyList n) := ⟨empty⟩

def isEmpty (list : ReadyList n) : Bool := list.head.isNone

def contains (list : ReadyList n) (place : Fin n) : Bool :=
  list.head == some place || (list.links.get place).isLinked

def next (list : ReadyList n) (place : Fin n) : Option (Fin n) := (list.links.get place).next

/-- The places from a start on, following the links, at most so many. -/
def follow (list : ReadyList n) : Nat → Option (Fin n) → List (Fin n)
  | steps + 1, some place => place :: list.follow steps (list.next place)
  | _, _ => []

/-- The places from the head on, at most so many. -/
def walk (list : ReadyList n) (steps : Nat) : List (Fin n) := list.follow steps list.head

/-- The members of a list whose links end, in order. -/
def toList (list : ReadyList n) : List (Fin n) := list.walk n

/-- Set what comes after a place, or the head. -/
def setNext (list : ReadyList n) (place next : Option (Fin n)) : ReadyList n :=
  match place with
  | some p => { list with links := list.links.set p { list.links.get p with next := next } p.isLt }
  | none => { list with head := next }

/-- Set what comes before a place, if there is the place. -/
def setPrev (list : ReadyList n) (place prev : Option (Fin n)) : ReadyList n :=
  match place with
  | some p => { list with links := list.links.set p { list.links.get p with prev := prev } p.isLt }
  | none => list

def setLinks (list : ReadyList n) (place : Fin n) (links : Links n) : ReadyList n :=
  { list with links := list.links.set place links place.isLt }

/-- Forget the links of a place without mending those of its neighbours. -/
def isolate (list : ReadyList n) (place : Fin n) : ReadyList n := list.setLinks place {}

/-- Forget the head; all links stay. -/
def clear (list : ReadyList n) : ReadyList n := { list with head := none }

/-- The gap in front of the first place of lower priority, as the places before and after it. After
more steps than there are places the walk is in a circle, and there is no gap. -/
def gap? (list : ReadyList n) (rank : Fin n → Priority) (priority : Priority) :
    Nat → Option (Fin n) → Option (Fin n) → Option (Links n)
  | _, prev, none => some ⟨none, prev⟩
  | 0, _, some _ => none
  | steps + 1, prev, some place =>
      if priority.outranks (rank place) then some ⟨some place, prev⟩
      else list.gap? rank priority steps (some place) (list.next place)

/-- Make a place the link between two neighbours. -/
def link (list : ReadyList n) (place : Fin n) (gap : Links n) : ReadyList n :=
  ((list.setLinks place gap).setNext gap.prev (some place)).setPrev gap.next (some place)

/-- Put a place behind every place of greater or equal priority. A member stays where it is. -/
def insert (list : ReadyList n) (rank : Fin n → Priority) (place : Fin n) : Except Fault (ReadyList n) :=
  if list.contains place then .ok list
  else match list.gap? rank (rank place) n none list.head with
    | some gap => .ok (list.link place gap)
    | none => .error .endlessList

/-- Join the neighbours of a place and clear its links. A place that is no member changes nothing. -/
def remove (list : ReadyList n) (place : Fin n) : ReadyList n :=
  if list.contains place then
    let links := list.links.get place
    ((list.setNext links.prev links.next).setPrev links.next links.prev).isolate place
  else list

/-- Insertion by id. Ids below zero change nothing; a place past the table is a fault. -/
def insertId (list : ReadyList n) (rank : Fin n → Priority) (id : TaskId) : Except Fault (ReadyList n) :=
  match id.index? with
  | none => .ok list
  | some index =>
      if inside : index < n then list.insert rank ⟨index, inside⟩ else .error .outsideTable

/-- Removal by id. An id that names no place of the table changes nothing. -/
def removeId (list : ReadyList n) (id : TaskId) : ReadyList n :=
  match id.within n with
  | some place => list.remove place
  | none => list

def containsId (list : ReadyList n) (id : TaskId) : Bool :=
  match id.within n with
  | some place => list.contains place
  | none => false

/-- The places in the list, in the order of the table. -/
def members (list : ReadyList n) : List (Fin n) := (List.finRange n).filter list.contains

end ReadyList

end CoopKernel
