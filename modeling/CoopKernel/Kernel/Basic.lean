import CoopKernel.ConfigError
import CoopKernel.Mail.Mailbox
import CoopKernel.Machine.Basic
import CoopKernel.Ready
import CoopKernel.Trace.Event

/-! # The state of the kernel

A kernel is one value: the tasks, the ready list, who runs, the machine under it and the trace. Every
operation is a step of `KernelM`, which ends with an answer or with a fault; either way the state it
left is part of the outcome.
-/

namespace CoopKernel

/-- What the kernel keeps for one task. -/
structure Task (width : Width) (S : Type) where
  desc : TaskDesc
  /-- The registers of the task while it does not run. -/
  context : S
  /-- The senders of the last wait. It stays after the wait is over, since receiving goes by it. -/
  waiting : TaskMask
  mailbox : Mailbox width

/-- The state of a kernel on a machine `M` with a table of `n` tasks. -/
structure Kernel (width : Width) (M S : Type) (n : Nat) where
  tasks : Vector (Task width S) n
  ready : ReadyList n
  /-- The task that the last scheduling pass chose. -/
  current : Option (Fin n)
  /-- The task that becomes ready whenever an interrupt is pending. -/
  interruptTask : Option (Fin n)
  machine : M
  trace : KernelTrace
  fits : n ≤ maxTasks

abbrev KernelM (width : Width) (M S : Type) (n : Nat) (α : Type) : Type :=
  EStateM Fault (Kernel width M S n) α

namespace Kernel

variable {width : Width} {M S : Type} {n : Nat}

/-- The interrupt task that an id stands for: nobody is none, and other ids must be in the table. -/
def interruptPlace (n : Nat) (id : TaskId) : Except ConfigError (Option (Fin n)) :=
  if id = TaskId.nobody then .ok none
  else match id.within n with
    | some place => .ok (some place)
    | none => .error (.badInterruptTask id)

def new [Machine M S] (table : Vector TaskDesc n) (interruptTask : TaskId) (machine : M) :
    Except ConfigError (Kernel width M S n) :=
  if fits : n ≤ maxTasks then
    (interruptPlace n interruptTask).map fun place =>
      { tasks := table.map fun desc => ⟨desc, Registers.blank, TaskMask.empty, Mailbox.empty⟩
        ready := ReadyList.empty
        current := none
        interruptTask := place
        machine := machine
        trace := KernelTrace.new
        fits := fits }
  else .error (.tooManyTasks n)

def taskAt (kernel : Kernel width M S n) (place : Fin n) : Task width S := kernel.tasks.get place

def desc (kernel : Kernel width M S n) (place : Fin n) : TaskDesc := (kernel.taskAt place).desc

/-- The priority of a task. -/
def rank (kernel : Kernel width M S n) (place : Fin n) : Priority := (kernel.desc place).priority

def changeTask (kernel : Kernel width M S n) (place : Fin n)
    (change : Task width S → Task width S) : Kernel width M S n :=
  { kernel with tasks := kernel.tasks.set place (change (kernel.taskAt place)) place.isLt }

theorem taskAt_changeTask (kernel : Kernel width M S n) (place other : Fin n)
    (change : Task width S → Task width S) :
    (kernel.changeTask place change).taskAt other =
      if place = other then change (kernel.taskAt place) else kernel.taskAt other := by
  change (kernel.tasks.set place (change (kernel.taskAt place)) place.isLt)[other.val] =
    if place = other then change (kernel.taskAt place) else kernel.tasks[other.val]
  simp only [Vector.getElem_set, Fin.val_inj]

def setWaiting (kernel : Kernel width M S n) (place : Fin n) (mask : TaskMask) : Kernel width M S n :=
  kernel.changeTask place fun task => { task with waiting := mask }

def setMailbox (kernel : Kernel width M S n) (place : Fin n) (box : Mailbox width) : Kernel width M S n :=
  kernel.changeTask place fun task => { task with mailbox := box }

def changeContext (kernel : Kernel width M S n) (place : Fin n) (change : S → S) : Kernel width M S n :=
  kernel.changeTask place fun task => { task with context := change task.context }

def record (kernel : Kernel width M S n) (event : Event) : Kernel width M S n :=
  { kernel with trace := kernel.trace.record event }

def unready (kernel : Kernel width M S n) (place : Fin n) : Kernel width M S n :=
  { kernel with ready := kernel.ready.remove place }

/-- Whether a task has mail from a set of senders. -/
def hasMailFrom (kernel : Kernel width M S n) (place : Fin n) (mask : TaskMask) : Bool :=
  (kernel.taskAt place).mailbox.senders.intersects mask

def makeReady (place : Fin n) : KernelM width M S n Unit := fun kernel =>
  match kernel.ready.insert kernel.rank place with
  | .ok ready => .ok () { kernel with ready := ready }
  | .error fault => .error fault kernel

/-- A step of the machine as a step of the kernel. -/
def onMachine {α : Type} (step : EStateM Fault M α) : KernelM width M S n α := fun kernel =>
  match step kernel.machine with
  | .ok answer machine => .ok answer { kernel with machine := machine }
  | .error fault machine => .error fault { kernel with machine := machine }

/-- Change the machine in a way that cannot fail. -/
def changeMachine (kernel : Kernel width M S n) (change : M → M) : Kernel width M S n :=
  { kernel with machine := change kernel.machine }

/-- The task that makes a call; a call with no task running is a fault. -/
def caller : KernelM width M S n (Fin n) := fun kernel =>
  match kernel.current with
  | some place => .ok place kernel
  | none => .error .noCaller kernel

/-- Ready tasks in the order in which they would run, at most so many. -/
def readyTasks (kernel : Kernel width M S n) (steps : Nat) : List (Fin n) := kernel.ready.walk steps

def isReady (kernel : Kernel width M S n) (id : TaskId) : Bool := kernel.ready.containsId id

/-- What is kept for the task that an id names. -/
def task? (kernel : Kernel width M S n) (id : TaskId) : Option (Task width S) :=
  (id.within n).map kernel.taskAt

end Kernel

end CoopKernel
