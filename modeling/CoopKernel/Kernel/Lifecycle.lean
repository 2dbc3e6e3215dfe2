import CoopKernel.Kernel.Schedule

/-! # Starting tasks

`init` puts every task in its boot state and chooses the first one to run; `restart` does so for one
task. Both have the machine build the context from the task's description.
-/

namespace CoopKernel.Kernel

variable {width : Width} {M S : Type} {n : Nat} [Machine M S]

/-- The boot state of a task, its registers aside: no links, no mail, nothing to wait for. -/
def resetTask (kernel : Kernel width M S n) (place : Fin n) : Kernel width M S n :=
  { kernel with ready := kernel.ready.isolate place }.changeTask place fun task =>
    { task with waiting := TaskMask.empty, mailbox := Mailbox.empty }

/-- Have the machine build the context of a task anew. -/
def rebuildContext (place : Fin n) : KernelM width M S n Unit := do
  let context ← onMachine (Machine.buildContext (.ofIndex place) ((← get).desc place))
  modify (·.changeContext place fun _ => context)

/-- Put a task in its boot state and make it ready. -/
def startTask (place : Fin n) : KernelM width M S n Unit := do
  modify (·.resetTask place)
  rebuildContext place
  makeReady place

/-- Hand the processor from one task to another, at the level of the machine. -/
def switchTo (prev : TaskId) (next : Fin n) : KernelM width M S n Unit := do
  modify (·.record (.switch prev (.ofIndex next)))
  onMachine (Machine.switchSpace prev (.ofIndex next))
  modify (·.changeMachine (Machine.setCurrent (.ofIndex next)))

/-- Start the tasks at the places of a list, up to the first one with an empty section. -/
def startTasks : List (Fin n) → KernelM width M S n (Except ConfigError Unit)
  | [] => pure (.ok ())
  | place :: rest => do
      match ((← get).desc place).firstEmpty with
      | some kind => pure (.error (.emptySection (.ofIndex place) kind))
      | none => do
          startTask place
          startTasks rest

/-- Start every task and choose the first one to run. A task with an empty section ends this half
way. -/
def init : KernelM width M S n (Except ConfigError (Fin n)) := do
  modify fun kernel => { kernel with ready := kernel.ready.clear, current := none }
  match ← startTasks (List.finRange n) with
  | .error error => pure (.error error)
  | .ok () => do
      let first ← schedule
      modify (·.record (.init (.ofIndex first)))
      switchTo TaskId.nobody first
      pure (.ok first)

/-- Start one task over, and choose the task to run. -/
def restart (id : TaskId) : KernelM width M S n (Except MailError (Fin n)) := do
  match id.within n with
  | none => pure (.error .badParam)
  | some place => do
      modify (·.record (.restart id))
      modify (·.unready place)
      startTask place
      let next ← schedule
      pure (.ok next)

end CoopKernel.Kernel
