import CoopKernel.Proofs.Kernel.Failing
import CoopKernel.Proofs.Kernel.Words
import CoopKernel.Proofs.Kernel.Replay
import CoopKernel.Proofs.Kernel.Tracing

/-! # On the host the kernel stops only to sleep for ever

On the host contexts are always built and address spaces always changed, so of the ways to fail only two
are left: a call while no task runs, and a sleep with no interrupt to come. After the kernel was started
there always is a task that runs, so only the sleep remains (`Kernel.faultless`). That the kernel gets by
with machine words and checked indices is part of the statement: `WordsSuffice` says that what the list,
the mailboxes and the trace do is done by the operations that stop at the first index or sum that is out
of range.
-/

namespace CoopKernel

variable {width : Width} {M S : Type} {n : Nat}

section Histories

variable [Machine M S] {start kernel : Kernel width M S n} {history : List (Moment width M S n)}

/-- Whatever happens, there is a task that runs if there was one. -/
theorem Moment.current_ne_none {moment : Moment width M S n} (came : moment.Came) (orderly : moment.before.Orderly)
    (present : moment.before.current ≠ none) : moment.after.current ≠ none := by
  rcases performs_or_keeps came with ⟨call, result, middle, performs⟩ | ⟨-, same⟩
  · have movement := Kernel.perform_moves orderly.bootable orderly.formed performs.direct performs.performed
    have currentEq : moment.after.current = middle.current := congrArg Core.current performs.core_eq
    rw [currentEq]
    cases choice : result.chosen? with
    | some chosen =>
      rw [(movement.chosen chosen choice).1]
      exact Option.some_ne_none chosen
    | none =>
      rw [(movement.kept choice).1]
      exact present
  · have currentEq : moment.after.current = moment.before.current := congrArg Core.current same
    rw [currentEq]
    exact present

theorem Kernel.Booted.current_ne_none (booted : start.Booted) : start.current ≠ none := by
  obtain ⟨_, _, _, _, first, _, began⟩ := booted
  rw [((Kernel.init_moves (Kernel.init_sections began) began).chosen first rfl).1]
  exact Option.some_ne_none first

theorem Run.current_ne_none (booted : start.Booted) (run : Run start history kernel) : kernel.current ≠ none := by
  induction run with
  | start => exact booted.current_ne_none
  | step earlier came ih => exact Moment.current_ne_none came (earlier.orderly booted.orderly) ih

end Histories

/-- The operations on what is stored, in machine words, do what the operations of the kernel do, and do not stop. -/
structure WordsSuffice (width : Width) (n : Nat) : Prop where
  contains : ∀ (list : ReadyList n) (place : Fin n), list.stored.contains (.ofIndex place) = list.contains place
  insert : ∀ (list after : ReadyList n) (rank : Fin n → Priority) (place : Fin n), list.insert rank place = .ok after →
    list.stored.insert (.ofFn rank) (.ofIndex place) = some after.stored
  remove : ∀ (list : ReadyList n) (place : Fin n),
    list.stored.remove (.ofIndex place) = some (list.remove place).stored
  push : ∀ (box : Mailbox width) (entry : Entry width),
    box.bytes.push entry = some ((box.push entry).map Mailbox.bytes)
  senders : ∀ box : Mailbox width, box.bytes.senders = some box.senders
  take : ∀ (box : Mailbox width) (wanted : TaskMask),
    box.bytes.take wanted = some ((box.take wanted).map fun found => (found.1, found.2.bytes))
  record : ∀ (trace : KernelTrace) (event : Event), KernelTrace.Points trace →
    trace.recordWord? event.line event = some (trace.record event)

theorem wordsSuffice (width : Width) (small : n ≤ maxTasks) : WordsSuffice width n where
  contains _ place := ReadyList.contains_stored small place
  insert _ _ _ _ inserted := ReadyList.insert_stored small inserted
  remove _ place := ReadyList.remove_stored small place
  push := Mailbox.push_bytes
  senders := Mailbox.senders_bytes
  take := Mailbox.take_bytes
  record _ event points := by
    apply Trace.Ring.recordWord?_eq (by decide) (by decide)
    intro last isLast
    exact Nat.lt_trans (points last isLast) (by decide)

namespace Kernel

section Host

variable {kernel after : Kernel width HostMachine HostContext n} {fault : Fault}

/-- The host stops only when it is asked to sleep and has no interrupt to come. -/
theorem idle_error {before after : HostMachine} (failed : HostMachine.idle before = .error fault after) :
    fault = .idleForever ∧ after.scheduled = 0 := by
  unfold HostMachine.idle at failed
  split at failed
  · next none =>
    cases failed
    exact ⟨rfl, none⟩
  · cases failed

theorem not_unbuilt {after : HostMachine} : ¬Unbuilt fault after := by
  rintro ⟨_, _, _, impossible⟩
  cases impossible

theorem not_unswitched {after : HostMachine} : ¬Unswitched fault after := by
  rintro ⟨_, _, _, impossible⟩
  cases impossible

/-- How a kernel on the host stops while a task runs: in a scheduling pass over an empty list, with no interrupt to
come. -/
structure Stuck (fault : Fault) (after : Kernel width HostMachine HostContext n) : Prop where
  fault_eq : fault = .idleForever
  unscheduled : after.machine.scheduled = 0
  pass : ∃ before : Kernel width HostMachine HostContext n,
    before.ready.isEmpty = true ∧ schedule before = .error fault after

theorem Failed.stuck (failed : Failed kernel fault after) (present : kernel.current ≠ none) : Stuck fault after := by
  cases failed with
  | nobodyRuns absent => exact absurd absent present
  | @unscheduled before formed failed =>
    obtain ⟨headless, ⟨machine, -, idled⟩, -⟩ := schedule_error formed failed
    obtain ⟨faultEq, noneScheduled⟩ := idle_error idled
    have empty : before.ready.isEmpty = true := by
      rw [ReadyList.isEmpty, headless]
      rfl
    exact ⟨faultEq, noneScheduled, before, empty, failed⟩
  | unbuilt unbuilt => exact absurd unbuilt not_unbuilt
  | unswitched unswitched => exact absurd unswitched not_unswitched

/-- With a task, and no empty section, starting every task comes back with the first one to run. -/
theorem init_comes_back (bootable : kernel.Bootable) (occupied : 0 < n) :
    ∃ first after, init kernel = .ok (.ok first) after := by
  cases came : init kernel with
  | error fault after =>
    rcases init_error bootable came occupied with unbuilt | unswitched
    · exact absurd unbuilt not_unbuilt
    · exact absurd unswitched not_unswitched
  | ok result after =>
    rcases init_ok came with ⟨error, began, -⟩ | ⟨_, _, first, -, -, rfl, -⟩
    · have cleared : Bootable { kernel with ready := kernel.ready.clear, current := none } := bootable
      cases (startTasks_all_ok cleared began).1
    · exact ⟨first, after, rfl⟩

end Host

/-- An id is accepted for the interrupt task if it is nobody's or names a place of the table. -/
theorem new_of_accepted [Machine M S] {interruptTask : TaskId} (table : Vector TaskDesc n) (machine : M)
    (small : n ≤ maxTasks) (accepted : interruptTask = .nobody ∨ ∃ place : Fin n, interruptTask = .ofIndex place) :
    ∃ fresh : Kernel width M S n, Kernel.new table interruptTask machine = .ok fresh := by
  have placed : ∃ place, interruptPlace n interruptTask = .ok place := by
    unfold interruptPlace
    rcases accepted with rfl | ⟨place, rfl⟩
    · exact ⟨none, if_pos rfl⟩
    · have inTable := TaskId.within_ofIndex (Nat.le_trans small (by decide)) place
      split
      · exact ⟨none, rfl⟩
      · rw [inTable]
        exact ⟨some place, rfl⟩
  obtain ⟨place, placed⟩ := placed
  rw [Kernel.new, dif_pos small, placed]
  exact ⟨_, rfl⟩

/-- A table of one to `maxTasks` tasks without an empty section is accepted with any interrupt task, and every task on
it is started. Whatever happens after that comes back, or stops in a scheduling pass over an empty list with no interrupt
to come; the trace points at one of its slots throughout. None of it needs more than machine words and indices that are
in range. -/
theorem faultless {table : Vector TaskDesc n} {interruptTask : TaskId} {machine : HostMachine} (occupied : 0 < n)
    (small : n ≤ maxTasks) (sections : ∀ place, (table.get place).firstEmpty = none)
    (accepted : interruptTask = .nobody ∨ ∃ place : Fin n, interruptTask = .ofIndex place) :
    (∃ (fresh start : Kernel width HostMachine HostContext n) (first : Fin n),
      Kernel.new table interruptTask machine = .ok fresh ∧ init fresh = .ok (.ok first) start ∧
        ∀ history kernel, Run start history kernel → KernelTrace.Points kernel.trace ∧ ∀ action,
          (∃ answer after, act action kernel = .ok answer after) ∨
            ∃ fault after, act action kernel = .error fault after ∧ Stuck fault after) ∧
      WordsSuffice width n := by
  obtain ⟨fresh, made⟩ : ∃ fresh : Kernel width HostMachine HostContext n, _ :=
    new_of_accepted table machine small accepted
  have bootable : fresh.Bootable := fun place => by rw [(new_ok made).desc_eq, sections]
  obtain ⟨first, start, began⟩ := init_comes_back bootable occupied
  have booted : start.Booted := ⟨table, interruptTask, machine, fresh, first, made, began⟩
  refine ⟨⟨fresh, start, first, made, began, fun history kernel run => ⟨?_, fun action => ?_⟩⟩, wordsSuffice width small⟩
  · exact run.trace_invariant booted KernelTrace.points_new KernelTrace.points_record
  have orderly := run.orderly booted.orderly
  cases outcome : act action kernel with
  | ok answer after => exact .inl ⟨answer, after, rfl⟩
  | error fault after =>
    have failed := act_error orderly.bootable orderly.formed outcome
    exact .inr ⟨fault, after, rfl, failed.stuck (run.current_ne_none booted)⟩

/-- After the other tasks of the demo retired, the last one can still yield, but not retire. -/
theorem faultless_demo : ∃ history kernel after, Run Demo.started history kernel ∧ kernel.current = some 3 ∧
    (∃ answer next, act (.call .yield) kernel = .ok answer next) ∧
    act (.call .exit) kernel = .error .idleForever after ∧ Stuck .idleForever after := by
  obtain ⟨⟨fresh, start, first, made, began, always⟩, -⟩ :=
    @faultless .eight 4 Demo.table (.ofIndex 0) {} (by decide) (by decide) Demo.table_sections (.inr ⟨0, rfl⟩)
  have freshEq : fresh = Demo.fresh := Except.ok.inj (made.symm.trans Demo.new_table)
  have startEq : start = Demo.started := by
    rw [Demo.started, ← freshEq, began]
  rw [startEq] at always
  have computed : (replay? Demo.started [.call .exit, .call .exit, .call .exit]).any (fun final =>
      decide (final.2.current = some 3) &&
        (match act (.call .yield) final.2 with | .ok _ _ => true | .error _ _ => false) &&
        (match act (.call .exit) final.2 with | .ok _ _ => false | .error _ _ => true)) = true := by
    decide +kernel
  obtain ⟨history, kernel, run, facts⟩ := Run.of_replay? computed
  rw [Bool.and_eq_true, Bool.and_eq_true, decide_eq_true_eq] at facts
  obtain ⟨⟨isCurrent, yields⟩, stops⟩ := facts
  obtain ⟨-, always⟩ := always history kernel run
  rcases always (.call .exit) with ⟨answer, after, came⟩ | ⟨fault, after, failed, stuck⟩
  · rw [came] at stops
    cases stops
  rcases always (.call .yield) with ⟨answer, next, came⟩ | ⟨fault, next, stopped, -⟩
  · obtain rfl := stuck.fault_eq
    exact ⟨history, kernel, after, run, isCurrent, ⟨answer, next, came⟩, failed, stuck⟩
  · rw [stopped] at yields
    cases yields

end Kernel

end CoopKernel
