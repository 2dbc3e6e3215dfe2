import CoopKernel.Config.App
import CoopKernel.Config.KernelConfig

/-! # From applications to configurations

`App.resolve` turns the names of an application into places and masks. Tasks are checked in the order
of the table, each first for its senders and then for its sections; what concerns the whole
application comes after them, its number of tasks before.
-/

namespace CoopKernel

/-- Why an application has no configuration. -/
inductive ResolveError where
  | noTasks (app : String)
  | tooManyTasks (app : String) (count : Nat)
  /-- A task takes mail from a task that there is not. -/
  | unknownSender (task sender : String)
  | emptySection (task : String) (kind : SectionKind)
  /-- The end of a section is past the last address. -/
  | wrappingSection (task : String) (kind : SectionKind) (address : UInt32)
  | unknownInterruptTask (name : String)
  /-- Interrupt lines are named, but no task that minds them. -/
  | unmindedIrqs
deriving DecidableEq, Repr, Inhabited

namespace ResolveError

/-- The explanation of an error, from what failed to why. -/
def causes : ResolveError → List String
  | noTasks app => ["app " ++ app ++ " has no tasks"]
  | tooManyTasks app count =>
      ["app " ++ app ++ " has " ++ Numeral.decimal count ++ " tasks, but at most " ++
        Numeral.decimal maxTasks ++ " are supported"]
  | unknownSender task sender => ["task " ++ task, "unknown sender " ++ sender]
  | emptySection task kind => ["task " ++ task ++ " has an empty " ++ kind.display ++ " section"]
  | wrappingSection task kind address =>
      ["task " ++ task ++ ": " ++ kind.display ++ " section at " ++ Numeral.hex address.toNat ++
        " wraps the address space"]
  | unknownInterruptTask name => ["interrupt task " ++ name ++ " is not a task in this app"]
  | unmindedIrqs => ["irqs are listed but no interrupt-task is named"]

def message (error : ResolveError) : String := ": ".intercalate error.causes

end ResolveError

/-- Whether a section ends within the address space. -/
def Section.isBounded (region : Section) : Bool := region.address.toNat + region.size.toNat < UInt32.size

namespace App

/-- The tasks that one name among the senders stands for. -/
def senderMask? (app : App) (sender : String) : Option TaskMask :=
  if sender = anySender then some .full else (app.index? sender).map TaskMask.ofPlace

/-- The tasks that the senders of a task stand for together. -/
def permission (app : App) (task : String) : List String → Except ResolveError TaskMask
  | [] => .ok .empty
  | sender :: rest =>
      match app.senderMask? sender with
      | some mask => (permission app task rest).map (mask ∪ ·)
      | none => .error (.unknownSender task sender)

/-- What is wrong with a section of a task. -/
def sectionError? (name : String) (task : AppTask) (kind : SectionKind) : Option ResolveError :=
  let region := task.region kind
  if region.isEmpty then some (.emptySection name kind)
  else if region.isBounded then none
  else some (.wrappingSection name kind region.address)

def resolveTask (app : App) (entry : String × AppTask) : Except ResolveError TaskConfig := do
  let (name, task) := entry
  let permission ← app.permission name task.senders
  match SectionKind.all.findSome? (sectionError? name task) with
  | some error => .error error
  | none => .ok ⟨name, task.priority, permission, task.text, task.bss, task.stack⟩

/-- The place of the interrupt task. Without one there must be no interrupt lines. -/
def resolveInterruptTask (app : App) : Except ResolveError (Option UInt64) :=
  match app.interruptTask with
  | some name =>
      match app.index? name with
      | some index => .ok (some (UInt64.ofNat index))
      | none => .error (.unknownInterruptTask name)
  | none => if app.irqs.isEmpty then .ok none else .error .unmindedIrqs

def resolve (app : App) : Except ResolveError KernelConfig :=
  if app.tasks.isEmpty then .error (.noTasks app.name)
  else if maxTasks < app.tasks.length then .error (.tooManyTasks app.name app.tasks.length)
  else do
    let tasks ← app.tasks.mapM app.resolveTask
    let interruptTask ← app.resolveInterruptTask
    return ⟨tasks, interruptTask, app.irqs⟩

end App

end CoopKernel
