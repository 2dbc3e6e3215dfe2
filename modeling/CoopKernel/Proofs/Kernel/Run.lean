import CoopKernel.Proofs.Kernel.Trapping

/-! # Runs of a kernel

Everything that can happen to a kernel is an `Action`: a call, a trap among them; a change of saved
registers, as by the task they belong to; a change of the machine, as by a device that raises an
interrupt. A `Moment` is an action that came back, with the states around it, and a `Run` is a sequence
of moments, oldest first. An action that ends with a fault is no moment, so a run holds none.

A trap asks for one of the other calls through registers. `trap_ok` says that it does to everything but
saved registers, machine and trace what that call does, so statements about runs speak of direct calls.
-/

namespace CoopKernel

/-- What scheduling and mail depend on: a kernel without saved registers, machine and trace. -/
structure Core (width : Width) (n : Nat) where
  desc : Fin n → TaskDesc
  waiting : Fin n → TaskMask
  mailbox : Fin n → Mailbox width
  ready : ReadyList n
  current : Option (Fin n)
  interruptTask : Option (Fin n)

/-- Something that happens to a kernel. -/
inductive Action (width : Width) (M S : Type) (n : Nat) where
  /-- The kernel is called. -/
  | call (call : Call width)
  /-- Saved registers change. -/
  | load (place : Fin n) (change : S → S)
  /-- The machine changes. -/
  | outside (change : M → M)

namespace Kernel

variable {width : Width} {M S : Type} {n : Nat} {kernel after : Kernel width M S n}

def core (kernel : Kernel width M S n) : Core width n where
  desc := kernel.desc
  waiting place := (kernel.taskAt place).waiting
  mailbox place := (kernel.taskAt place).mailbox
  ready := kernel.ready
  current := kernel.current
  interruptTask := kernel.interruptTask

@[simp] theorem core_changeContext (place : Fin n) (change : S → S) :
    (kernel.changeContext place change).core = kernel.core := by
  have task (other : Fin n) : ∃ context, (kernel.changeContext place change).taskAt other =
      { kernel.taskAt other with context := context } := by
    rw [changeContext, taskAt_changeTask]
    split
    · next same => exact ⟨_, by rw [same]⟩
    · exact ⟨_, rfl⟩
  rw [core, core, Core.mk.injEq]
  refine ⟨?_, ?_, ?_, rfl, rfl, rfl⟩ <;> funext other <;> obtain ⟨context, same⟩ := task other
  · rw [desc, same, desc]
  · rw [same]
  · rw [same]

theorem context_changeContext (place : Fin n) (change : S → S) :
    ((kernel.changeContext place change).taskAt place).context = change (kernel.taskAt place).context := by
  rw [changeContext, taskAt_changeTask, if_pos rfl]

theorem taskAt_changeContext_of_ne {place other : Fin n} (apart : other ≠ place) (change : S → S) :
    (kernel.changeContext place change).taskAt other = kernel.taskAt other := by
  rw [changeContext, taskAt_changeTask, if_neg apart.symm]

section Requests

variable [Machine M S]

/-- The direct call that the current task's registers ask for; a number of no call asks for none. -/
def requested (kernel : Kernel width M S n) : Option (Call width) :=
  kernel.current.bind fun place =>
    let saved := (kernel.taskAt place).context
    (Syscall.ofNumber? (Registers.number saved)).map (Syscall.call width saved)

/-- A trap leaves the core that the direct call leaves, and chooses as that does. -/
structure Requested (kernel : Kernel width M S n) (place : Fin n) (call : Call width) (chosen : Fin n)
    (after : Kernel width M S n) : Prop where
  direct : call ≠ .trap
  performed : ∃ result middle, perform call kernel = .ok result middle ∧ after.core = middle.core ∧
    chosen = result.chosen?.getD place

theorem serve_ok {place chosen : Fin n} (isCaller : kernel.current = some place)
    (came : serve place kernel = .ok chosen after) :
    (kernel.requested = none ∧ chosen = place ∧ after.core = kernel.core) ∨
      ∃ call, kernel.requested = some call ∧ Requested kernel place call chosen after := by
  have requestedEq : kernel.requested = (kernel.asked place).map (kernel.encoded place) := by
    rw [requested, isCaller]
    rfl
  rw [requestedEq]
  cases serve_replied came with
  | unknown unknown =>
    rw [unknown]
    exact .inl ⟨rfl, rfl, core_changeContext ..⟩
  | @shown syscall result middle asks _ performed =>
    rw [asks]
    refine .inr ⟨_, rfl, Syscall.call_ne_trap _ _ _, result, middle, performed, core_changeContext .., rfl⟩
  | @exited chosen middle _ _ asks performed _ =>
    rw [asks]
    refine .inr ⟨_, rfl, Syscall.call_ne_trap _ _ _, .next chosen, middle, performed, core_changeContext .., rfl⟩

/-- What a trap that came back did: nothing of note, or what the direct call does. -/
theorem trap_ok {chosen : Fin n} (came : trap kernel = .ok chosen after) :
    ∃ place, kernel.current = some place ∧
      ((kernel.requested = none ∧ chosen = place ∧ after.core = kernel.core) ∨
        ∃ call, kernel.requested = some call ∧ Requested kernel place call chosen after) := by
  obtain ⟨place, isCaller⟩ := current_of_trap came
  obtain ⟨served, servedEq, handed⟩ := trap_served isCaller came
  have coreEq : after.core = served.core := by cases handed <;> rfl
  refine ⟨place, isCaller, ?_⟩
  rcases serve_ok isCaller servedEq with ⟨unasked, same, keeps⟩ |
    ⟨call, asks, direct, result, middle, performed, keeps, chosenEq⟩
  · exact .inl ⟨unasked, same, coreEq.trans keeps⟩
  · exact .inr ⟨call, asks, direct, result, middle, performed, coreEq.trans keeps, chosenEq⟩

def act : Action width M S n → KernelM width M S n (Option (Answer width n))
  | .call call => do return some (← perform call)
  | .load place change => do
      modify (·.changeContext place change)
      pure none
  | .outside change => do
      modify (·.changeMachine change)
      pure none

/-- The direct call that an action makes: for a trap the one that it asks for. -/
def direct? (kernel : Kernel width M S n) : Action width M S n → Option (Call width)
  | .call .trap => kernel.requested
  | .call call => some call
  | _ => none

/-- An action that came back either kept the core, or left the one that a direct call leaves. A task that the
direct call chooses is the one that the action answers with. -/
theorem act_ok {action : Action width M S n} {answer : Option (Answer width n)}
    (came : act action kernel = .ok answer after) :
    (kernel.direct? action = none ∧ after.core = kernel.core) ∨
      ∃ call result middle, kernel.direct? action = some call ∧ call ≠ .trap ∧
        perform call kernel = .ok result middle ∧ after.core = middle.core ∧
        ∀ place, result.chosen? = some place → answer.bind Answer.chosen? = some place := by
  cases action with
  | load place change =>
    simp only [act, bind_ok_iff, modify_ok_iff, pure_ok_iff] at came
    obtain ⟨_, _, rfl, -, rfl⟩ := came
    exact .inl ⟨rfl, core_changeContext ..⟩
  | outside change =>
    simp only [act, bind_ok_iff, modify_ok_iff, pure_ok_iff] at came
    obtain ⟨_, _, rfl, -, rfl⟩ := came
    exact .inl ⟨rfl, rfl⟩
  | call call =>
    obtain ⟨result, middle, performed, came⟩ := bind_ok_iff.mp came
    obtain ⟨rfl, rfl⟩ := pure_ok_iff.mp came
    by_cases direct : call = .trap
    · subst direct
      obtain ⟨chosen, middle, trapped, came⟩ := bind_ok_iff.mp performed
      obtain ⟨rfl, rfl⟩ := pure_ok_iff.mp came
      obtain ⟨place, -, ⟨unasked, -, coreEq⟩ | ⟨call, asked, direct, result, later, performed, coreEq, rfl⟩⟩ :=
        trap_ok trapped
      · exact .inl ⟨unasked, coreEq⟩
      · refine .inr ⟨call, result, later, asked, direct, ‹_›, coreEq, fun place chosenEq => ?_⟩
        rw [chosenEq]
        rfl
    · have same : kernel.direct? (.call call) = some call := by
        cases call with
        | trap => exact absurd rfl direct
        | _ => rfl
      exact .inr ⟨call, result, middle, same, direct, performed, rfl, fun _ chosenEq => chosenEq⟩

end Requests

/-- A kernel on whose table every task can be started. -/
def Bootable (kernel : Kernel width M S n) : Prop := ∀ place, (kernel.desc place).firstEmpty = none

/-- What a kernel is right after it was made from a table. -/
structure Fresh (table : Vector TaskDesc n) (kernel : Kernel width M S n) : Prop where
  desc_eq : ∀ place, kernel.desc place = table.get place
  ready_eq : kernel.ready = .empty
  current_eq : kernel.current = none
  waiting_eq : ∀ place, (kernel.taskAt place).waiting = .empty
  mailbox_eq : ∀ place, (kernel.taskAt place).mailbox = .empty

theorem new_eq [Machine M S] {table : Vector TaskDesc n} {interruptTask : TaskId} {machine : M}
    (made : Kernel.new table interruptTask machine = .ok kernel) : ∃ place, kernel =
      { tasks := table.map fun desc => ⟨desc, Registers.blank, TaskMask.empty, Mailbox.empty⟩, ready := .empty
        current := none, interruptTask := place, machine := machine, trace := .new, fits := kernel.fits } := by
  unfold new at made
  split at made
  · cases placed : interruptPlace n interruptTask with
    | error error =>
      rw [placed] at made
      cases made
    | ok place =>
      rw [placed] at made
      cases made
      exact ⟨place, rfl⟩
  · cases made

theorem new_ok [Machine M S] {table : Vector TaskDesc n} {interruptTask : TaskId} {machine : M}
    (made : Kernel.new table interruptTask machine = .ok kernel) : kernel.Fresh table := by
  obtain ⟨place, kernelEq⟩ := new_eq made
  have task (other : Fin n) : kernel.taskAt other = ⟨table.get other, Registers.blank, .empty, .empty⟩ := by
    rw [kernelEq]
    exact Vector.getElem_map ..
  constructor
  · intro other
    rw [desc, task]
  · rw [kernelEq]
  · rw [kernelEq]
  · intro other
    rw [task]
  · intro other
    rw [task]

theorem new_machine [Machine M S] {table : Vector TaskDesc n} {interruptTask : TaskId} {machine : M}
    (made : Kernel.new table interruptTask machine = .ok kernel) : kernel.machine = machine := by
  obtain ⟨place, kernelEq⟩ := new_eq made
  rw [kernelEq]

theorem new_interruptTask [Machine M S] {table : Vector TaskDesc n} {interruptTask : TaskId} {machine : M}
    (made : Kernel.new table interruptTask machine = .ok kernel) :
    interruptPlace n interruptTask = .ok kernel.interruptTask := by
  unfold new at made
  split at made
  · cases placed : interruptPlace n interruptTask with
    | error error =>
      rw [placed] at made
      cases made
    | ok place =>
      rw [placed] at made
      cases made
      rfl
  · cases made

/-- A kernel right after it was made from a table and started for the first time. -/
def Booted [Machine M S] (kernel : Kernel width M S n) : Prop :=
  ∃ (table : Vector TaskDesc n) (interruptTask : TaskId) (machine : M) (fresh : Kernel width M S n) (first : Fin n),
    Kernel.new table interruptTask machine = .ok fresh ∧ init fresh = .ok (.ok first) kernel

end Kernel

/-- An action that came back, with its answer and the states around it. -/
structure Moment (width : Width) (M S : Type) (n : Nat) where
  before : Kernel width M S n
  action : Action width M S n
  answer : Option (Answer width n)
  after : Kernel width M S n

namespace Moment

variable {width : Width} {M S : Type} {n : Nat} [Machine M S]

/-- Whether the moment is what the action does. -/
def Came (moment : Moment width M S n) : Prop :=
  Kernel.act moment.action moment.before = .ok moment.answer moment.after

theorem came_load (kernel : Kernel width M S n) (place : Fin n) (change : S → S) :
    Came ⟨kernel, .load place change, none, kernel.changeContext place change⟩ := rfl

theorem came_of_trap {kernel after : Kernel width M S n} {chosen : Fin n} (came : Kernel.trap kernel = .ok chosen after) :
    Came ⟨kernel, .call .trap, some (.next chosen), after⟩ := by
  have performed : Kernel.perform .trap kernel = .ok (.next chosen) after := bind_of_ok came
  exact bind_of_ok performed

def call? (moment : Moment width M S n) : Option (Call width) := moment.before.direct? moment.action

def outcome? (moment : Moment width M S n) : Option (Answer width n) :=
  moment.call?.bind fun call =>
    match Kernel.perform call moment.before with
    | .ok result _ => some result
    | .error _ _ => none

/-- The moment does what a direct call does: it leaves the core that the call leaves, and answers with the task that
the call chooses, if it chooses one. -/
structure Performs (moment : Moment width M S n) (call : Call width) (result : Answer width n)
    (middle : Kernel width M S n) : Prop where
  call_eq : moment.call? = some call
  outcome_eq : moment.outcome? = some result
  direct : call ≠ .trap
  performed : Kernel.perform call moment.before = .ok result middle
  core_eq : moment.after.core = middle.core
  chosen : ∀ place, result.chosen? = some place → moment.answer.bind Answer.chosen? = some place

/-- A moment keeps the core, or does what its direct call does. -/
theorem performs_or_keeps {moment : Moment width M S n} (came : moment.Came) :
    (∃ call result middle, moment.Performs call result middle) ∨
      moment.call? = none ∧ moment.after.core = moment.before.core := by
  rcases Kernel.act_ok came with ⟨uncalled, same⟩ | ⟨call, result, middle, called, direct, performed, same, chosen⟩
  · exact .inr ⟨uncalled, same⟩
  · have callEq : moment.call? = some call := called
    have outcomeEq : moment.outcome? = some result := by
      rw [outcome?, callEq, Option.bind_some, performed]
    exact .inl ⟨call, result, middle, callEq, outcomeEq, direct, performed, same, chosen⟩

end Moment

/-- A sequence of moments, each beginning in the state that the one before it left. -/
inductive Run {width : Width} {M S : Type} {n : Nat} [Machine M S] (start : Kernel width M S n) :
    List (Moment width M S n) → Kernel width M S n → Prop
  | start : Run start [] start
  | step {history : List (Moment width M S n)} {moment : Moment width M S n} (run : Run start history moment.before)
      (came : moment.Came) : Run start (history ++ [moment]) moment.after

/-- The last moment of a run. -/
theorem Run.of_concat {width : Width} {M S : Type} {n : Nat} [Machine M S] {start kernel : Kernel width M S n}
    {history : List (Moment width M S n)} {moment : Moment width M S n}
    (run : Run start (history ++ [moment]) kernel) :
    Run start history moment.before ∧ moment.Came ∧ kernel = moment.after := by
  generalize whole : history ++ [moment] = moments at run
  cases run with
  | start => simp at whole
  | step earlier came =>
    obtain ⟨rfl, same⟩ := List.append_inj' whole rfl
    cases same
    exact ⟨earlier, came, rfl⟩

end CoopKernel
