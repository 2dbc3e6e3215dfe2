import CoopKernel.Task.Desc

/-! # Resolved configurations

What a kernel is built from: names are turned into places and masks. Nothing is checked here; a
configuration may come ready made.
-/

namespace CoopKernel

structure TaskConfig where
  name : String
  priority : Priority
  /-- The tasks that may post to this one. -/
  permission : TaskMask
  text : Section
  bss : Section
  stack : Section
deriving DecidableEq, Repr, Inhabited

/-- The description of a task, which has no name. -/
def TaskConfig.desc (task : TaskConfig) : TaskDesc :=
  ⟨task.priority, task.permission, task.text, task.bss, task.stack⟩

structure KernelConfig where
  /-- The tasks in the order of the table. -/
  tasks : List TaskConfig
  /-- The place of the task that minds the interrupts. -/
  interruptTask : Option UInt64
  /-- The lines that count as an interrupt. -/
  irqs : List UInt32
deriving DecidableEq, Repr, Inhabited

/-- The table that the kernel runs. -/
def KernelConfig.descs (config : KernelConfig) : List TaskDesc := config.tasks.map (·.desc)

end CoopKernel
