import CoopKernel.Proofs.Config.Interrupts
import CoopKernel.Proofs.Config.Resolution
import CoopKernel.Proofs.Kernel.Faultless
import CoopKernel.Proofs.Scheduling.Policy

/-! # An application that resolves can be started

The kernel checks its table again: the number of tasks and the place of the interrupt task when it is
made, the sections when it starts. A table that comes from an application passes all of it, on every
machine (`boots`). The start makes tasks ready in the order in which they are declared, each behind its
equals, so the list that it ends with is the declared tasks sorted by priority, and stably so. What is
left to go wrong is the machine: it may fail to build a context or to change the address space, which the
host never does.
-/

namespace CoopKernel

open ReadyOrder

variable {width : Width} {M S : Type} {n : Nat}

/-- What arrived later in a log that goes upwards is greater. -/
theorem lt_of_lastArrival_lt {log : List (Fin n)} (ascending : log.Pairwise (· < ·)) {earlier later : Fin n}
    (logged : earlier ∈ log) (came : lastArrival log earlier < lastArrival log later) : earlier < later := by
  have descending : log.reverse.Pairwise fun a b => b < a := List.pairwise_reverse.mpr ascending
  have inside : log.reverse.idxOf earlier < log.reverse.length :=
    List.idxOf_lt_length_of_mem (List.mem_reverse.mpr logged)
  have nearer : log.reverse.idxOf later < log.reverse.idxOf earlier := by
    unfold lastArrival at came
    omega
  have related := List.pairwise_iff_getElem.mp descending _ _ (Nat.lt_trans nearer inside) inside nearer
  rwa [List.getElem_idxOf, List.getElem_idxOf] at related

/-- Making all places ready, from the first to the last, sorts them by priority and leaves equals in order. -/
theorem ReadyOrder.Admits.sorted {rank : Fin n → Priority} {order : List (Fin n)}
    (admits : Admits rank (List.finRange n) [] order) (full : ∀ place, place ∈ order) :
    order.Pairwise fun earlier later =>
      (rank earlier).outranks (rank later) = true ∨ rank earlier = rank later ∧ earlier < later := by
  -- before the start nobody is ready and nobody has arrived; then all places arrive in order
  have nobody : Queued rank [] [] := ⟨fun _ member => absurd member List.not_mem_nil, .nil⟩
  have queued := nobody.admits admits (List.nodup_finRange n) .nil
  have logEq : [] ++ (List.finRange n).filter (fun place => place ∈ order ∧ place ∉ []) = List.finRange n := by
    simp [full]
  rw [logEq] at queued
  refine queued.pairwise.imp fun related => related.imp_right fun ⟨equal, earlier⟩ => ⟨?_, ?_⟩
  · exact congrArg Priority.mk equal
  · exact lt_of_lastArrival_lt (List.pairwise_lt_finRange n) (List.mem_finRange _) earlier

namespace App

variable {app : App} {config : KernelConfig}

/-- A task comes before another if it is more important, or equally important and declared earlier. -/
def Precedes (app : App) (a b : Fin app.tasks.length) : Prop :=
  (app.taskAt a).priority.outranks (app.taskAt b).priority = true ∨
    (app.taskAt a).priority = (app.taskAt b).priority ∧ a < b

/-- What the first start of an application ends with. -/
structure Launched (app : App) (first : Fin app.tasks.length) (after : Kernel width M S app.tasks.length) : Prop where
  current_eq : after.current = some first
  foremost : ∀ other, other ≠ first → app.Precedes first other
  everyone : after.ready.toList.Perm (List.finRange app.tasks.length)
  sorted : after.ready.toList.Pairwise app.Precedes

variable [Machine M S] {table : Vector TaskDesc app.tasks.length} {fresh after : Kernel width M S app.tasks.length}

/-- The kernel accepts the id that stands for the interrupt task, and takes it for that task. -/
theorem Resolved.new_ok (resolved : app.Resolved config) (table : Vector TaskDesc app.tasks.length) (machine : M) :
    ∃ fresh : Kernel width M S app.tasks.length, Kernel.new table config.interruptId machine = .ok fresh ∧
      fresh.interruptTask.map app.nameAt = app.interruptTask := by
  have small : app.tasks.length ≤ 128 := Nat.le_trans resolved.small (by decide)
  obtain ⟨place, idEq, named⟩ := resolved.interruptId_eq
  have accepted : config.interruptId = .nobody ∨
      ∃ place : Fin app.tasks.length, config.interruptId = .ofIndex place := by
    rw [idEq]
    cases place with
    | none => exact .inl rfl
    | some place => exact .inr ⟨place, rfl⟩
  obtain ⟨fresh, made⟩ : ∃ fresh : Kernel width M S app.tasks.length, _ :=
    Kernel.new_of_accepted table machine resolved.small accepted
  refine ⟨fresh, made, ?_⟩
  rw [← (Kernel.interruptPlace_ok_iff.mp (Kernel.new_interruptTask made)).1, idEq, TaskId.within_ofPlace? small, named]

/-- A start of all tasks that came back, from a table that says what the application says. -/
theorem Describes.launched (describes : app.Describes table) (isFresh : fresh.Fresh table)
    {result : Except ConfigError (Fin app.tasks.length)} (came : Kernel.init fresh = .ok result after) :
    ∃ first, result = .ok first ∧ app.Launched first after := by
  have bootable := (isFresh.orderly describes.firstEmpty_eq).bootable
  have rankEq (place : Fin app.tasks.length) : fresh.rank place = (app.taskAt place).priority := by
    rw [Kernel.rank, isFresh.desc_eq, describes.priority_eq]
  -- the start refuses empty sections only, and there are none; it makes all tasks ready before it looks for one to run,
  -- so the search finds the list full and leaves it so
  rcases Kernel.init_ok came with ⟨error, began, -⟩ | ⟨started, scheduled, first, began, passed, rfl, -, afterEq⟩
  · cases (Kernel.startTasks_all_ok bootable began).1
  obtain ⟨-, -, -, formed, admits, full⟩ := Kernel.startTasks_all_ok bootable began
  have readyEq : after.ready = started.ready := by
    rw [afterEq]
    exact passed.ready_eq_of_full formed full
  have sorted : after.ready.toList.Pairwise app.Precedes := by
    rw [readyEq]
    refine (admits.sorted full).imp fun related => ?_
    rwa [rankEq, rankEq] at related
  have headEq : after.ready.toList.head? = some first := by
    rw [readyEq, ← formed.head_eq, ← passed.ready_eq_of_full formed full]
    exact passed.head_eq
  refine ⟨first, rfl, ?_, ?_, ?_, sorted⟩
  · rw [afterEq]
    exact passed.current_eq
  · intro other apart
    obtain ⟨rest, listEq⟩ := List.head?_eq_some_iff.mp headEq
    have member : other ∈ after.ready.toList := readyEq ▸ full other
    rw [listEq] at member sorted
    exact List.rel_of_pairwise_cons sorted ((List.mem_cons.mp member).resolve_left apart)
  · rw [readyEq]
    exact (List.perm_ext_iff_of_nodup formed.nodup (List.nodup_finRange _)).mpr fun place => by simp [full]

/-- The kernel accepts the table and the interrupt task of an application that resolves, on any machine. Its start
chooses the foremost task and leaves the tasks sorted, or fails because of the machine; on the host it does not fail. -/
theorem boots (resolved : app.resolve = .ok config) :
    ∃ table : Vector TaskDesc app.tasks.length, table.toList = config.descs ∧
      (∀ {M S : Type} [Machine M S] (machine : M), ∃ fresh : Kernel width M S app.tasks.length,
        Kernel.new table config.interruptId machine = .ok fresh ∧
        fresh.interruptTask.map app.nameAt = app.interruptTask ∧
        ((∃ first after, Kernel.init fresh = .ok (.ok first) after ∧ app.Launched first after) ∨
          ∃ fault after, Kernel.init fresh = .error fault after ∧
            (Kernel.Unbuilt fault after.machine ∨ Kernel.Unswitched fault after.machine))) ∧
      ∀ (machine : HostMachine) (fresh : Kernel width HostMachine HostContext app.tasks.length),
        Kernel.new table config.interruptId machine = .ok fresh →
        ∃ first after, Kernel.init fresh = .ok (.ok first) after ∧ app.Launched first after := by
  have resolved := resolve_ok resolved
  obtain ⟨table, tableEq⟩ := resolved.exists_table
  have describes := resolved.describes tableEq
  refine ⟨table, tableEq, fun machine => ?_, fun machine fresh made => ?_⟩
  · obtain ⟨fresh, made, named⟩ := resolved.new_ok table machine
    have isFresh := Kernel.new_ok made
    refine ⟨fresh, made, named, ?_⟩
    cases came : Kernel.init fresh with
    | error fault after =>
      have bootable := (isFresh.orderly describes.firstEmpty_eq).bootable
      exact .inr ⟨fault, after, rfl, Kernel.init_error bootable came resolved.occupied⟩
    | ok result after =>
      obtain ⟨first, rfl, launched⟩ := describes.launched isFresh came
      exact .inl ⟨first, after, rfl, launched⟩
  · have isFresh := Kernel.new_ok made
    have bootable := (isFresh.orderly describes.firstEmpty_eq).bootable
    obtain ⟨first, after, came⟩ := Kernel.init_comes_back bootable resolved.occupied
    obtain ⟨_, ⟨rfl⟩, launched⟩ := describes.launched isFresh came
    exact ⟨first, after, came, launched⟩

/-- The demo is started with its interrupt task. -/
theorem boots_demo : Demo.app.resolve = .ok Demo.config ∧
    ∃ after, Kernel.init Demo.fresh = .ok (.ok 0) after ∧ Demo.app.Launched (0 : Fin 4) after := by
  obtain ⟨table, tableEq, -, hosted⟩ := @boots .eight Demo.app Demo.config Demo.resolve_app
  obtain rfl : table = Demo.table := Vector.toList_inj.mp (tableEq.trans Demo.toList_table.symm)
  obtain ⟨first, after, came, launched⟩ := hosted {} Demo.fresh Demo.new_table
  have isFirst : Demo.started.current = some 0 := by decide +kernel
  rw [Demo.started_eq came, launched.current_eq] at isFirst
  cases isFirst
  exact ⟨Demo.resolve_app, after, came, launched⟩

end App

end CoopKernel
