import CoopKernel.Proofs.Kernel.Faultless

/-! # Starting all over

`init` is a reboot. What it leaves is read off the table, the interrupt task and the machine alone
(`Boots`): every task is in its boot state, and the ready list is the one that holds them all, in the order
in which they came. What was there before, stale links among it, does not show. So on the host a kernel
that has run comes out of `init` as a new one would, the trace apart, and its machine has what `init` asked
of it added to what it knew (`Run.reboots`).
-/

namespace CoopKernel

open ReadyOrder

variable {width : Width} {n : Nat}

def Task.boot (place : Fin n) (desc : TaskDesc) : Task width HostContext :=
  ⟨desc, HostContext.start (.ofIndex place) desc, .empty, .empty⟩

namespace HostMachine

/-- The machine was asked for the contexts of all tasks, and handed to the first one. The interrupts, pending and to come,
and the count of sleeps stay. -/
def booted (machine : HostMachine) (first : Fin n) : HostMachine :=
  { machine with
    contexts := machine.contexts ++ (List.finRange n).map fun place => .ofIndex place
    switches := machine.switches ++ [(.nobody, .ofIndex first)]
    current := .ofIndex first }

end HostMachine

namespace Kernel

variable {kernel other after otherAfter : Kernel width HostMachine HostContext n}

/-- The host builds a context from id and description, and writes the id down. -/
theorem Started.host {place : Fin n} (started : Started kernel place after) :
    after.taskAt place = .boot place (kernel.desc place) ∧
      after.machine = { kernel.machine with contexts := kernel.machine.contexts ++ [.ofIndex place] } := by
  obtain ⟨context, built, taskEq⟩ := started.taskAt_self
  obtain ⟨rfl, machineEq⟩ := EStateM.Result.ok.inj built
  exact ⟨taskEq, machineEq.symm⟩

theorem Starts.host {places : List (Fin n)} (starts : Starts places kernel after) :
    (∀ place ∈ places, after.taskAt place = .boot place (kernel.desc place)) ∧
      after.machine = { kernel.machine with
        contexts := kernel.machine.contexts ++ places.map fun place => .ofIndex place } := by
  induction starts with
  | done kernel => exact ⟨fun _ member => absurd member List.not_mem_nil, by simp⟩
  | @next first rest kernel middle after _ started later ih =>
    obtain ⟨booted, machineEq⟩ := started.host
    obtain ⟨bootedRest, machineRestEq⟩ := ih
    rw [started.desc_eq] at bootedRest
    constructor
    · intro place member
      by_cases inside : place ∈ rest
      · exact bootedRest place inside
      · obtain rfl := (List.mem_cons.mp member).resolve_right inside
        exact (later.taskAt_of_notMem inside).trans booted
    · simp [machineRestEq, machineEq]

theorem Switched.host {prev next : TaskId} {before after : HostMachine} (switched : Switched prev next before after) :
    after = { before with switches := before.switches ++ [(prev, next)], current := next } := by
  obtain ⟨machine, switched, rfl⟩ := switched
  obtain ⟨-, rfl⟩ := EStateM.Result.ok.inj switched
  rfl

/-- What a start that came back leaves, by table, interrupt task and machine. -/
structure Boots (kernel : Kernel width HostMachine HostContext n) (first : Fin n)
    (after : Kernel width HostMachine HostContext n) : Prop where
  taskAt_eq : ∀ place, after.taskAt place = .boot place (kernel.desc place)
  threads : after.ready.Threads (fun _ => True) (enqueueAll kernel.rank (List.finRange n) [])
  head_eq : after.ready.head = some first
  current_eq : after.current = some first
  interruptTask_eq : after.interruptTask = kernel.interruptTask
  machine_eq : after.machine = kernel.machine.booted first

theorem init_boots {first : Fin n} (came : init kernel = .ok (.ok first) after) : Boots kernel first after := by
  rcases init_ran came with ⟨_, -, impossible⟩ | ⟨started, scheduled, _, began, passed, same, switched, afterEq⟩
  · cases impossible
  · cases same
    cases startTasks_ok began with
    | all starts =>
      have threads := starts.threads_finRange (ReadyList.threads_clear kernel.ready)
      have everybody (place : Fin n) : place ∈ enqueueAll kernel.rank (List.finRange n) [] :=
        mem_enqueueAll.mpr (.inl (List.mem_finRange place))
      have full (place : Fin n) : place ∈ started.ready.toList := threads.toList_eq ▸ everybody place
      have headed : started.ready.head ≠ none := fun headless => by
        rw [threads.head_eq, List.head?_eq_none_iff] at headless
        exact absurd (headless ▸ everybody first) List.not_mem_nil
      -- the list holds the interrupt task already, so the pass leaves it alone, pending interrupt or not
      have pass := schedule_ok passed
      have readyEq : scheduled.ready = started.ready := pass.ready_eq_of_full threads.wellFormed full
      have awake : scheduled.machine = started.machine := schedule_awake headed passed
      obtain ⟨booted, machineEq⟩ := starts.host
      have taskEq (place : Fin n) : after.taskAt place = started.taskAt place := by
        rw [afterEq]
        exact congrArg (·.get place) pass.tasks_eq
      refine ⟨?_, ?_, ?_, ?_, ?_, ?_⟩
      · exact fun place => (taskEq place).trans (booted place (List.mem_finRange place))
      · rw [afterEq]
        exact readyEq ▸ threads
      · rw [afterEq]
        exact pass.head_eq
      · rw [afterEq]
        exact pass.current_eq
      · rw [afterEq]
        exact pass.interruptTask_eq.trans starts.keeps.interruptTask_eq
      · rw [switched.host, awake, machineEq]
        rfl

/-- Of two kernels with one table, one start leaves what the other leaves, machine and trace apart. -/
theorem Boots.eq_of_sameTable {first second : Fin n} (boots : Boots kernel first after)
    (again : Boots other second otherAfter) (same : SameTable kernel other) :
    second = first ∧ otherAfter = { after with machine := otherAfter.machine, trace := otherAfter.trace } := by
  have threads := again.threads
  rw [rank_of_desc same.desc_eq] at threads
  have readyEq : otherAfter.ready = after.ready := ReadyList.eq_of_threads threads boots.threads
  have firstEq : second = first := by
    have headEq := again.head_eq
    rw [readyEq, boots.head_eq] at headEq
    exact (Option.some.inj headEq).symm
  have tasksEq : otherAfter.tasks = after.tasks := Vector.ext fun index inside => by
    have taskEq := again.taskAt_eq ⟨index, inside⟩
    rw [same.desc_eq] at taskEq
    exact taskEq.trans (boots.taskAt_eq ⟨index, inside⟩).symm
  have currentEq : otherAfter.current = after.current := by rw [again.current_eq, boots.current_eq, firstEq]
  have interruptTaskEq : otherAfter.interruptTask = after.interruptTask := by
    rw [again.interruptTask_eq, boots.interruptTask_eq, same.interruptTask_eq]
  refine ⟨firstEq, ?_⟩
  rw [← tasksEq, ← readyEq, ← currentEq, ← interruptTaskEq]

end Kernel

namespace Run

/-- Whatever happened to a kernel made from a table without empty sections, a start leaves it as it leaves the new
kernel, first task and all; only the trace goes on, and the machine knows what it knew, with what was asked of it now
added. -/
theorem reboots {table : Vector TaskDesc n} {interruptTask : TaskId} {machine : HostMachine}
    {fresh kernel : Kernel width HostMachine HostContext n} {history : List (Moment width HostMachine HostContext n)}
    (occupied : 0 < n) (sections : ∀ place, (table.get place).firstEmpty = none)
    (made : Kernel.new table interruptTask machine = .ok fresh) (run : Run fresh history kernel) :
    ∃ first booted rebooted, Kernel.init fresh = .ok (.ok first) booted ∧ Kernel.init kernel = .ok (.ok first) rebooted ∧
      rebooted = { booted with machine := kernel.machine.booted first, trace := rebooted.trace } := by
  have same := run.sameTable
  have bootable : fresh.Bootable := fun place => by rw [(Kernel.new_ok made).desc_eq, sections]
  have bootableAgain : kernel.Bootable := by
    rw [Kernel.Bootable, same.desc_eq]
    exact bootable
  obtain ⟨first, booted, came⟩ := Kernel.init_comes_back bootable occupied
  obtain ⟨second, rebooted, cameAgain⟩ := Kernel.init_comes_back bootableAgain occupied
  have again := Kernel.init_boots cameAgain
  obtain ⟨rfl, rebootedEq⟩ := (Kernel.init_boots came).eq_of_sameTable again same
  rw [again.machine_eq] at rebootedEq
  exact ⟨second, booted, rebooted, came, cameAgain, rebootedEq⟩

/-- The interrupt task of the demo sends mail and retires, registers of another task change, and an interrupt comes. A
start puts everything back but the interrupt, which stays pending. -/
theorem reboots_demo : ∃ history kernel first booted rebooted, Run Demo.fresh history kernel ∧
    (kernel.taskAt 2).mailbox.entries = [⟨.ofIndex 0, 5⟩] ∧ (kernel.taskAt 3).context.number = 4 ∧
    kernel.ready.toList = [1, 2, 3] ∧ kernel.machine.pending = true ∧
    Kernel.init Demo.fresh = .ok (.ok first) booted ∧ Kernel.init kernel = .ok (.ok first) rebooted ∧
    rebooted.tasks = booted.tasks ∧ rebooted.ready = booted.ready ∧ rebooted.machine.pending = true := by
  have computed : (replay? Demo.fresh [.call .init, .call (.send (.ofIndex 2) 5), .call .exit,
      .load 3 (·.load 4 [9]), .outside HostMachine.raise]).any (fun final =>
        decide ((final.2.taskAt 2).mailbox.entries = [⟨.ofIndex 0, 5⟩] ∧ (final.2.taskAt 3).context.number = 4 ∧
          final.2.ready.toList = [1, 2, 3] ∧ final.2.machine.pending = true)) = true := by
    decide +kernel
  obtain ⟨history, kernel, run, facts⟩ := Run.of_replay? computed
  obtain ⟨mailEq, numberEq, listEq, pending⟩ := of_decide_eq_true facts
  obtain ⟨first, booted, rebooted, came, cameAgain, rebootedEq⟩ :=
    reboots (by decide) Demo.table_sections Demo.new_table run
  refine ⟨history, kernel, first, booted, rebooted, run, mailEq, numberEq, listEq, pending, came, cameAgain, ?_⟩
  rw [rebootedEq]
  exact ⟨rfl, rfl, pending⟩

end Run

end CoopKernel
