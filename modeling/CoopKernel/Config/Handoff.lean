import CoopKernel.Config.KernelConfig
import CoopKernel.Ron.Reader

/-! # Handing a configuration on

A configuration travels as RON. `KernelConfig.toRon` writes it without blanks and without the names
of its types; `KernelConfig.ofRon?` reads it in any order of fields. It passes over fields that it
does not know, except in sections, which have none but their own. The interrupt task may be missing.
-/

namespace CoopKernel

open Ron (Value Extensions)

namespace Handoff

/-- The fields of a record, which has no name or the given one. -/
def fieldsOf? (typeName : String) : Value → Option (List (String × Value))
  | .record name fields => if name = none ∨ name = some typeName then some fields else none
  | _ => none

/-- The values of a name among fields. -/
def valuesOf (fields : List (String × Value)) (name : String) : List Value :=
  (fields.filter (·.1 == name)).map (·.2)

/-- The only value of a name among fields. -/
def only? (fields : List (String × Value)) (name : String) : Option Value :=
  match valuesOf fields name with
  | [value] => some value
  | _ => none

/-- The number of a value, if it is below a limit. -/
def below? (limit : Nat) : Value → Option Nat
  | .natural number => if number < limit then some number else none
  | _ => none

/-- A word of an address or a mask. -/
def word? (value : Value) : Option UInt32 := (below? UInt32.size value).map UInt32.ofNat

def text? : Value → Option String
  | .text content => some content
  | _ => none

def items? : Value → Option (List Value)
  | .list items => some items
  | _ => none

/-- A value that may be absent. Where a bare value may stand for one that is there, a number may also
be attached to the word. -/
def optional? (extensions : Extensions) : Value → Option (Option Value)
  | .absent => some none
  | .present value => some (some value)
  | value => if extensions.implicitSome then some (some (value.attached?.getD value)) else none

end Handoff

open Handoff

def Section.ofRon? (value : Value) : Option Section := do
  let fields ← fieldsOf? "SectionConfig" value
  if fields.all fun (name, _) => name == "address" || name == "size" then
    return ⟨← word? (← only? fields "address"), ← word? (← only? fields "size")⟩
  else none

def Section.toRon (region : Section) : Value :=
  .record none [("address", .natural region.address.toNat), ("size", .natural region.size.toNat)]

namespace TaskConfig

def ofRon? (value : Value) : Option TaskConfig := do
  let fields ← fieldsOf? "TaskConfig" value
  return {
    name := ← text? (← only? fields "name")
    priority := ⟨← (below? UInt8.size (← only? fields "priority")).map UInt8.ofNat⟩
    permission := ⟨← word? (← only? fields "mailbox_permission")⟩
    text := ← Section.ofRon? (← only? fields "text")
    bss := ← Section.ofRon? (← only? fields "bss")
    stack := ← Section.ofRon? (← only? fields "stack") }

def toRon (task : TaskConfig) : Value :=
  .record none [("name", .text task.name), ("priority", .natural task.priority.level.toNat),
    ("mailbox_permission", .natural task.permission.bits.toNat), ("text", task.text.toRon),
    ("bss", task.bss.toRon), ("stack", task.stack.toRon)]

end TaskConfig

namespace KernelConfig

def interruptTaskOf? (extensions : Extensions) (fields : List (String × Value)) :
    Option (Option UInt64) :=
  match valuesOf fields "interrupt_task" with
  | [] => some none
  | [value] => do
      match ← optional? extensions value with
      | none => return none
      | some value => return some (UInt64.ofNat (← below? UInt64.size value))
  | _ => none

def ofValue? (extensions : Extensions) (value : Value) : Option KernelConfig := do
  let fields ← fieldsOf? "KernelConfig" value
  return {
    tasks := ← (← items? (← only? fields "tasks")).mapM TaskConfig.ofRon?
    interruptTask := ← interruptTaskOf? extensions fields
    irqs := ← (← items? (← only? fields "irqs")).mapM word? }

def toValue (config : KernelConfig) : Value :=
  .record none [("tasks", .list (config.tasks.map (·.toRon))),
    ("interrupt_task",
      match config.interruptTask with
      | some place => .present (.natural place.toNat)
      | none => .absent),
    ("irqs", .list (config.irqs.map fun irq => .natural irq.toNat))]

def toRon (config : KernelConfig) : String := String.ofList config.toValue.print

def ofRon? (text : String) : Option KernelConfig := do
  let document ← Ron.read? text.toList
  ofValue? document.extensions document.value

end KernelConfig

end CoopKernel
