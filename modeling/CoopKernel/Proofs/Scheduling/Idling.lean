import CoopKernel.Proofs.Kernel.Faultless
import CoopKernel.Proofs.Kernel.Passes

/-! # Sleeping until an interrupt

How a scheduling pass on the host goes depends on what its first look finds. If a task is ready then, or
becomes ready for a pending interrupt, nobody sleeps. Otherwise the pass sleeps, and every sleep but the
last possible one ends with an interrupt. For an interrupt task one is enough. Without one the interrupts
are of no use, and the pass sleeps through all of them before it stops for good.

`HostPass` lists these endings, and `Run.passes_exactly` says that there are no others, wherever a pass
begins.
-/

namespace CoopKernel

open ReadyOrder

variable {width : Width} {n : Nat}

namespace HostMachine

/-- The machine after a sleep that an interrupt ended, with so many of them left to come. -/
def slept (machine : HostMachine) (left : Nat) : HostMachine :=
  { machine with idled := machine.idled + 1, scheduled := left, pending := true }

theorem idle_of_succ {machine : HostMachine} {left : Nat} (isLeft : machine.scheduled = left + 1) :
    Machine.idle machine = .ok () (machine.slept left) := by
  change idle machine = _
  rw [idle, isLeft]
  rfl

theorem idle_of_zero {machine : HostMachine} (noneLeft : machine.scheduled = 0) :
    Machine.idle machine = .error .idleForever { machine with idled := machine.idled + 1 } := by
  change idle machine = _
  rw [idle, noneLeft]

end HostMachine

namespace Kernel

variable {kernel middle after : Kernel width HostMachine HostContext n} {place : Fin n}

/-- The kernel after a sleep that an interrupt ended. -/
def roused (kernel : Kernel width HostMachine HostContext n) (left : Nat) : Kernel width HostMachine HostContext n :=
  { kernel.record .idle with machine := kernel.machine.slept left }

theorem sleep_of_succ {left : Nat} (isLeft : kernel.machine.scheduled = left + 1) :
    sleep kernel = .ok () (kernel.roused left) :=
  sleep_of_idled (HostMachine.idle_of_succ isLeft)

/-- A scheduling pass on the host, by the ready tasks that its first look finds. -/
structure HostPass (kernel : Kernel width HostMachine HostContext n) (order : List (Fin n)) : Prop where
  joined : ∀ place, kernel.interruptTask = some place → kernel.machine.pending = true →
    place ∉ kernel.ready.toList → Joined kernel.rank place kernel.ready.toList order
  kept : (∀ place, kernel.interruptTask = some place → kernel.machine.pending = true →
    place ∈ kernel.ready.toList) → order = kernel.ready.toList
  awake : order ≠ [] → ∃ chosen after, schedule kernel = .ok chosen after ∧ after.ready.toList = order ∧
    after.machine = kernel.machine
  quiet : order = [] → kernel.interruptTask = none ∨ kernel.machine.pending = false
  /-- One interrupt wakes the interrupt task. -/
  woken : order = [] → ∀ place left, kernel.interruptTask = some place → kernel.machine.scheduled = left + 1 →
    ∃ after, schedule kernel = .ok place after ∧ after.ready.toList = [place] ∧
      after.machine = kernel.machine.slept left
  unwoken : order = [] → ∀ place, kernel.interruptTask = some place → kernel.machine.scheduled = 0 →
    ∃ after, schedule kernel = .error .idleForever after ∧ after.machine.idled = kernel.machine.idled + 1
  /-- Nobody minds the interrupts, and each of them only ends a sleep. -/
  unheeded : order = [] → kernel.interruptTask = none →
    ∃ after, schedule kernel = .error .idleForever after ∧
      after.machine.idled = kernel.machine.idled + (kernel.machine.scheduled + 1)
  chosen : ∀ chosen after, schedule kernel = .ok chosen after → after.current = some chosen ∧
    after.ready.head = some chosen ∧ after.ready.toList.head? = some chosen ∧
      ∀ place, after.interruptTask = some place → after.machine.pending = true → place ∈ after.ready.toList

/-- A look on the host that finds an interrupt for a task that is not ready. -/
theorem poll_joined (formed : kernel.ready.WellFormed) (isInterruptTask : kernel.interruptTask = some place)
    (pending : kernel.machine.pending = true) (absent : place ∉ kernel.ready.toList) :
    ∃ chosen after, poll kernel = .ok (some chosen) after ∧ after.machine = kernel.machine ∧
      after.ready.toList = enqueue kernel.rank place kernel.ready.toList ∧ after.ready.toList.head? = some chosen := by
  have notContained : kernel.ready.contains place = false :=
    Bool.eq_false_iff.mpr fun contained => absent (formed.contains_iff.mp contained)
  obtain ⟨ready, inserted, formedAfter, listEq⟩ := formed.insert kernel.rank place
  obtain ⟨chosen, isHead⟩ := Option.ne_none_iff_exists'.mp (ReadyList.head_ne_none_of_insert notContained inserted)
  refine ⟨chosen, { kernel.record (.interruptTaskReady (.ofIndex place)) with ready := ready }, ?_, rfl, listEq, ?_⟩
  · rw [poll_readied isInterruptTask pending notContained inserted, isHead]
  · exact formedAfter.head_eq.symm.trans isHead

/-- A look that finds nobody, and no interrupt for anybody. -/
theorem poll_quiet (headless : kernel.ready.head = none)
    (quiet : kernel.interruptTask = none ∨ kernel.machine.pending = false) : poll kernel = .ok none kernel := by
  have unneeded (place : Fin n) (isInterruptTask : kernel.interruptTask = some place)
      (pending : kernel.machine.pending = true) : kernel.ready.contains place = true := by
    rcases quiet with nobody | notPending
    · cases nobody.symm.trans isInterruptTask
    · cases notPending.symm.trans pending
  rw [poll_kept unneeded, headless]

theorem schedule_joined (formed : kernel.ready.WellFormed) (isInterruptTask : kernel.interruptTask = some place)
    (pending : kernel.machine.pending = true) (absent : place ∉ kernel.ready.toList) :
    ∃ chosen after, schedule kernel = .ok chosen after ∧
      after.ready.toList = enqueue kernel.rank place kernel.ready.toList ∧ after.machine = kernel.machine := by
  obtain ⟨chosen, after, polled, machineEq, listEq, -⟩ := poll_joined formed isInterruptTask pending absent
  exact ⟨chosen, _, schedule_of_awaited (awaitReady_of_some _ polled), listEq, machineEq⟩

/-- The interrupt task is asleep, and so is everybody else: the first interrupt wakes it. -/
theorem schedule_woken {left : Nat} (formed : kernel.ready.WellFormed) (empty : kernel.ready.toList = [])
    (isInterruptTask : kernel.interruptTask = some place) (quiet : kernel.machine.pending = false)
    (isLeft : kernel.machine.scheduled = left + 1) :
    ∃ after, schedule kernel = .ok place after ∧ after.ready.toList = [place] ∧
      after.machine = kernel.machine.slept left := by
  have headless : kernel.ready.head = none := by rw [formed.head_eq, empty, List.head?_nil]
  have emptyAwake : (kernel.roused left).ready.toList = [] := empty
  have absent : place ∉ (kernel.roused left).ready.toList := by
    rw [emptyAwake]
    exact List.not_mem_nil
  have formedAwake : (kernel.roused left).ready.WellFormed := formed
  have pending : (kernel.roused left).machine.pending = true := rfl
  obtain ⟨chosen, after, polled, machineEq, listEq, isHead⟩ := poll_joined formedAwake isInterruptTask pending absent
  have listEq : after.ready.toList = [place] := by
    rw [listEq, emptyAwake]
    rfl
  obtain rfl : place = chosen := by
    rw [listEq] at isHead
    exact Option.some.inj isHead
  have awaited : awaitReady (left + 1) kernel = .ok place after := by
    rw [awaitReady_of_slept left (poll_quiet headless (.inr quiet)) (sleep_of_succ isLeft)]
    exact awaitReady_of_some left polled
  rw [← isLeft] at awaited
  exact ⟨_, schedule_of_awaited awaited, listEq, machineEq⟩

theorem schedule_unwoken (headless : kernel.ready.head = none) (quiet : kernel.machine.pending = false)
    (noneLeft : kernel.machine.scheduled = 0) :
    ∃ after, schedule kernel = .error .idleForever after ∧ after.machine.idled = kernel.machine.idled + 1 :=
  ⟨_, schedule_of_stuck (awaitReady_of_stuck _ (poll_quiet headless (.inr quiet))
    (sleep_of_stuck (HostMachine.idle_of_zero noneLeft))), rfl⟩

/-- Without an interrupt task every sleep is followed by another, until no interrupt is left. -/
theorem awaitReady_unheeded {count : Nat} (headless : kernel.ready.head = none) (nobody : kernel.interruptTask = none)
    (countEq : kernel.machine.scheduled = count) :
    ∃ after, awaitReady count kernel = .error .idleForever after ∧
      after.machine.idled = kernel.machine.idled + (count + 1) := by
  -- each round uses up one interrupt and leaves the list as empty as before; the last sleep does not end
  induction count generalizing kernel with
  | zero =>
    exact ⟨_, awaitReady_of_stuck 0 (poll_quiet headless (.inl nobody))
      (sleep_of_stuck (HostMachine.idle_of_zero countEq)), rfl⟩
  | succ count ih =>
    have headlessAwake : (kernel.roused count).ready.head = none := headless
    have nobodyAwake : (kernel.roused count).interruptTask = none := nobody
    obtain ⟨after, stuck, idledEq⟩ := ih headlessAwake nobodyAwake rfl
    refine ⟨after, ?_, ?_⟩
    · rw [awaitReady_of_slept count (poll_quiet headless (.inl nobody)) (sleep_of_succ countEq), stuck]
    · rw [idledEq]
      change kernel.machine.idled + 1 + (count + 1) = _
      omega

/-- What a pass that chose a task leaves. -/
theorem schedule_chosen {chosen : Fin n} (formed : kernel.ready.WellFormed)
    (came : schedule kernel = .ok chosen after) : after.current = some chosen ∧ after.ready.head = some chosen ∧
      after.ready.toList.head? = some chosen ∧
        ∀ place, after.interruptTask = some place → after.machine.pending = true → place ∈ after.ready.toList := by
  have scheduled := schedule_ok came
  obtain ⟨formedAfter, -⟩ := scheduled.admits formed
  refine ⟨scheduled.current_eq, scheduled.head_eq, formedAfter.head_eq.symm.trans scheduled.head_eq, ?_⟩
  intro place isInterruptTask pending
  rw [scheduled.interruptTask_eq] at isInterruptTask
  have served := scheduled.served
  generalize after.ready = ready at served
  cases served with
  | kept unneeded => exact formed.contains_iff.mp (unneeded place isInterruptTask pending)
  | readied isServed _ _ inserted =>
    cases isServed.symm.trans isInterruptTask
    rw [(formed.of_insert inserted).2]
    exact mem_enqueue.mpr (.inl rfl)

/-- A pass that finds an interrupt for a task that is not ready. -/
theorem hostPass_joined (arranged : kernel.ready.Arranged kernel.rank)
    (isInterruptTask : kernel.interruptTask = some place) (pending : kernel.machine.pending = true)
    (absent : place ∉ kernel.ready.toList) : HostPass kernel (enqueue kernel.rank place kernel.ready.toList) := by
  have occupied : enqueue kernel.rank place kernel.ready.toList ≠ [] :=
    List.ne_nil_of_mem (mem_enqueue.mpr (.inl rfl))
  exact {
    joined := fun other same _ _ => by
      cases isInterruptTask.symm.trans same
      exact joined_enqueue arranged.ranked absent
    kept := fun unneeded => absurd (unneeded place isInterruptTask pending) absent
    awake := fun _ => schedule_joined arranged.formed isInterruptTask pending absent
    quiet := fun empty => absurd empty occupied
    woken := fun empty => absurd empty occupied
    unwoken := fun empty => absurd empty occupied
    unheeded := fun empty => absurd empty occupied
    chosen := fun _ _ => schedule_chosen arranged.formed }

/-- A pass that finds no interrupt to serve. -/
theorem hostPass_kept (formed : kernel.ready.WellFormed) (unneeded : ∀ place, kernel.interruptTask = some place →
    kernel.machine.pending = true → place ∈ kernel.ready.toList) : HostPass kernel kernel.ready.toList := by
  have quiet (empty : kernel.ready.toList = []) (place : Fin n) (isInterruptTask : kernel.interruptTask = some place) :
      kernel.machine.pending = false := by
    rw [Bool.eq_false_iff]
    intro pending
    have member := unneeded place isInterruptTask pending
    rw [empty] at member
    exact List.not_mem_nil member
  have headless (empty : kernel.ready.toList = []) : kernel.ready.head = none := by
    rw [formed.head_eq, empty, List.head?_nil]
  exact {
    joined := fun place isInterruptTask pending absent => absurd (unneeded place isInterruptTask pending) absent
    kept := fun _ => rfl
    awake := fun occupied => by
      obtain ⟨first, isFirst⟩ := Option.ne_none_iff_exists'.mp (List.head?_eq_none_iff.not.mpr occupied)
      have unneeded (place : Fin n) (isInterruptTask : kernel.interruptTask = some place)
          (pending : kernel.machine.pending = true) : kernel.ready.contains place = true :=
        formed.contains_iff.mpr (unneeded place isInterruptTask pending)
      exact ⟨first, _, schedule_kept unneeded (formed.head_eq.trans isFirst), rfl, rfl⟩
    quiet := fun empty => (Option.eq_none_or_eq_some kernel.interruptTask).imp_right
      fun ⟨place, isInterruptTask⟩ => quiet empty place isInterruptTask
    woken := fun empty place _ isInterruptTask =>
      schedule_woken formed empty isInterruptTask (quiet empty place isInterruptTask)
    unwoken := fun empty place isInterruptTask =>
      schedule_unwoken (headless empty) (quiet empty place isInterruptTask)
    unheeded := fun empty nobody => by
      obtain ⟨after, stuck, idledEq⟩ := awaitReady_unheeded (headless empty) nobody rfl
      exact ⟨after, schedule_of_stuck stuck, idledEq⟩
    chosen := fun _ _ => schedule_chosen formed }

/-- On an arranged list a pass goes as its first look says. -/
theorem exists_hostPass (arranged : kernel.ready.Arranged kernel.rank) : ∃ order, HostPass kernel order := by
  by_cases due : ∃ place, kernel.interruptTask = some place ∧ kernel.machine.pending = true ∧
      place ∉ kernel.ready.toList
  · obtain ⟨place, isInterruptTask, pending, absent⟩ := due
    exact ⟨_, hostPass_joined arranged isInterruptTask pending absent⟩
  · refine ⟨_, hostPass_kept arranged.formed fun place isInterruptTask pending => ?_⟩
    by_contra absent
    exact due ⟨place, isInterruptTask, pending, absent⟩

end Kernel

namespace Run

/-- Wherever a scheduling pass begins, in a state that a kernel on a table without empty sections reaches or behind the
approach of a call in such a state, it goes as its first look says: it chooses a task without a sleep if one is ready
then, after one sleep if an interrupt comes for the interrupt task, and otherwise it stops. That pass is what the call
goes on with. -/
theorem passes_exactly {table : Vector TaskDesc n} {interruptTask : TaskId} {machine : HostMachine}
    {fresh reached kernel : Kernel width HostMachine HostContext n}
    {history : List (Moment width HostMachine HostContext n)} {call : Call width}
    (sections : ∀ place, (table.get place).firstEmpty = none)
    (made : Kernel.new table interruptTask machine = .ok fresh) (run : Run fresh history reached)
    (begins : Kernel.approach call reached = .ok none kernel) : (∃ order, Kernel.HostPass kernel order) ∧
      Kernel.perform call reached = (Kernel.schedule >>= Kernel.conclude call) kernel :=
  have orderly := run.orderly ((Kernel.new_ok made).orderly sections)
  ⟨Kernel.exists_hostPass (orderly.arranged begins), Kernel.perform_approached begins⟩

/-- The last ready task of the demo retires while two interrupts are to come. The pass sleeps once, and leaves the
interrupt task ready. -/
theorem passes_exactly_demo : ∃ history reached kernel after, Run Demo.fresh history reached ∧
    Kernel.approach .exit reached = .ok none kernel ∧ kernel.ready.toList = [] ∧ kernel.machine.scheduled = 2 ∧
    Kernel.schedule kernel = .ok 0 after ∧ after.ready.toList = [0] ∧ after.machine.idled = kernel.machine.idled + 1 ∧
    after.machine.scheduled = 1 := by
  have computed : (replay? Demo.fresh [.call .init, .call .exit, .call .exit, .call .exit,
      .outside HostMachine.interruptDuringIdle, .outside HostMachine.interruptDuringIdle]).any (fun final =>
        Kernel.succeedsWith (Kernel.approach .exit) final.2 fun answer middle => answer.isNone &&
          decide (middle.ready.toList = [] ∧ middle.machine.scheduled = 2 ∧ middle.machine.pending = false ∧
            middle.interruptTask = some 0)) = true := by
    decide +kernel
  obtain ⟨history, reached, run, facts⟩ := Run.of_replay? computed
  obtain ⟨answer, kernel, begins, facts⟩ := Kernel.succeedsWith_iff.mp facts
  rw [Bool.and_eq_true, Option.isNone_iff_eq_none] at facts
  obtain ⟨rfl, facts⟩ := facts
  obtain ⟨empty, isLeft, notPending, isInterruptTask⟩ := of_decide_eq_true facts
  obtain ⟨⟨order, pass⟩, -⟩ := passes_exactly Demo.table_sections Demo.new_table run begins
  have orderEq : order = [] := by
    rw [pass.kept fun _ _ pending => absurd (notPending.symm.trans pending) Bool.false_ne_true, empty]
  obtain ⟨after, came, listEq, machineEq⟩ := pass.woken orderEq 0 1 isInterruptTask isLeft
  refine ⟨history, reached, kernel, after, run, begins, empty, isLeft, came, listEq, ?_, ?_⟩
  · rw [machineEq]
    rfl
  · rw [machineEq]
    rfl

end Run

end CoopKernel
