import CoopKernel.Task.Mask

/-! # Task descriptions

What the table says about a task before anything runs: how important it is, who may write to it, and
where its code, data and stack lie. A task with an empty section cannot be started, and
`TaskDesc.firstEmpty` names the first one.
-/

namespace CoopKernel

/-- How important a task is; a greater number is more important. -/
structure Priority where
  level : UInt8
deriving DecidableEq, Repr, Inhabited

namespace Priority

/-- Strictly more important: equals do not outrank each other. -/
def outranks (a b : Priority) : Bool := b.level < a.level

end Priority

/-- A contiguous piece of a task's image. -/
structure Section where
  address : UInt32
  size : UInt32
deriving DecidableEq, Repr, Inhabited

namespace Section

def isEmpty (region : Section) : Bool := region.size == 0

/-- The address one past the end, in the arithmetic of addresses, which wraps. -/
def limit (region : Section) : UInt32 := region.address + region.size

end Section

inductive SectionKind where
  | text
  | bss
  | stack
deriving DecidableEq, Repr, Inhabited

namespace SectionKind

/-- All kinds, in the order in which a description lists them. -/
def all : List SectionKind := [text, bss, stack]

def display : SectionKind → String
  | text => "text"
  | bss => "bss"
  | stack => "stack"

end SectionKind

/-- One entry of the task table, fixed before anything runs. -/
structure TaskDesc where
  priority : Priority
  /-- The tasks that may post to this one. -/
  permission : TaskMask
  text : Section
  bss : Section
  stack : Section
deriving DecidableEq, Repr, Inhabited

namespace TaskDesc

def region (desc : TaskDesc) : SectionKind → Section
  | .text => desc.text
  | .bss => desc.bss
  | .stack => desc.stack

/-- The first section without bytes, if there is one. -/
def firstEmpty (desc : TaskDesc) : Option SectionKind :=
  SectionKind.all.find? fun kind => (desc.region kind).isEmpty

end TaskDesc

end CoopKernel
