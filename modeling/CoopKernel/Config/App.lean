import CoopKernel.Task.Desc

/-! # Applications as people describe them

An application names its tasks; whom a task takes mail from, and which task minds the interrupts, is
said by name. Names in one application are distinct, so a name has one place in the table.
-/

namespace CoopKernel

/-- What stands among the senders of a task that takes mail from everyone. -/
def anySender : String := "*"

structure AppTask where
  priority : Priority
  /-- The names of the tasks that may post to this one. -/
  senders : List String
  text : Section
  bss : Section
  stack : Section
deriving DecidableEq, Repr, Inhabited

namespace AppTask

def region (task : AppTask) : SectionKind → Section
  | .text => task.text
  | .bss => task.bss
  | .stack => task.stack

end AppTask

structure App where
  name : String
  /-- The task that becomes ready whenever an interrupt is pending. -/
  interruptTask : Option String
  /-- The lines that count as an interrupt. -/
  irqs : List UInt32
  /-- The tasks with their names, in the order of the table. -/
  tasks : List (String × AppTask)
  distinct : (tasks.map (·.1)).Nodup
deriving Repr

namespace App

/-- The place of a task by its name. -/
def index? (app : App) (name : String) : Option Nat :=
  app.tasks.findIdx? (·.1 == name)

end App

end CoopKernel
