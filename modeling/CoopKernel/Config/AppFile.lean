import CoopKernel.Config.App
import CoopKernel.Toml.Reader

/-! # Application files

An application is described in TOML. Keys other than those of the description are refused. A task has
to say its priority and its sections; senders, interrupts and their lines may be missing. A
description with few parts may also be written as an array of them in order.
-/

namespace CoopKernel

open Toml (Value)

namespace AppFile

/-- The number of a value, if it is below a limit. -/
def below? (limit : Nat) : Value → Option Nat
  | .integer value => if 0 ≤ value ∧ value.toNat < limit then some value.toNat else none
  | _ => none

/-- A word of an address or an interrupt line. -/
def word? (value : Value) : Option UInt32 := (below? UInt32.size value).map UInt32.ofNat

def text? : Value → Option String
  | .text content => some content
  | _ => none

/-- The items of an array of either kind. -/
def items? : Value → Option (List Value)
  | .array items => some items
  | .tables items => some items
  | _ => none

/-- The values of the known keys in order, from a table that has no other keys, or from an array that
gives them in order. -/
def parts? (keys : List String) : Value → Option (List (Option Value))
  | .table _ entries =>
      if entries.all fun entry => keys.contains entry.1 then some (keys.map (entries.lookup ·)) else none
  | value => (items? value).map fun items => (List.range keys.length).map (items[·]?)

/-- Reads a part that may be missing. -/
def orElse? {α : Type} (read? : Value → Option α) (default : α) : Option Value → Option α
  | none => some default
  | some value => read? value

def section? (value : Value) : Option Section := do
  match ← parts? ["address", "size"] value with
  | [some address, some size] => some ⟨← word? address, ← word? size⟩
  | _ => none

def names? (value : Value) : Option (List String) := do (← items? value).mapM text?

def task? (value : Value) : Option AppTask := do
  match ← parts? ["priority", "senders", "text", "bss", "stack"] value with
  | [some priority, senders, some text, some bss, some stack] =>
      return {
        priority := ⟨← (below? UInt8.size priority).map UInt8.ofNat⟩
        senders := ← orElse? names? [] senders
        text := ← section? text
        bss := ← section? bss
        stack := ← section? stack }
  | _ => none

/-- The tasks of a table, with their names. -/
def tasks? : Value → Option (List (String × AppTask))
  | .table _ entries => entries.mapM fun entry => (task? entry.2).map (entry.1, ·)
  | _ => none

/-- The interrupt task and the interrupt lines of a value. An array has to give the task. -/
def interrupts? (value : Value) : Option (Option String × List UInt32) := do
  match value, ← parts? ["interrupt-task", "irqs"] value with
  | .table _ _, [task, irqs] | _, [task@(some _), irqs] =>
      return (← orElse? (fun value => (text? value).map some) none task,
        ← orElse? (fun value => do (← items? value).mapM word?) [] irqs)
  | _, _ => none

end AppFile

open AppFile

def App.ofTable? (table : Value) : Option App := do
  match ← parts? ["name", "kernel", "tasks"] table with
  | [some name, kernel, some tasks] => do
      let name ← text? name
      let (interruptTask, irqs) ← orElse? interrupts? (none, []) kernel
      let tasks ← tasks? tasks
      if distinct : (tasks.map (·.1)).Nodup then
        some { name, interruptTask, irqs, tasks, distinct }
      else none
  | _ => none

def App.ofToml? (text : String) : Option App := do
  App.ofTable? (← Toml.read? text.toList)

end CoopKernel
