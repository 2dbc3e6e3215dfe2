import CoopKernel.Proofs.Kernel.Passes
import CoopKernel.Proofs.Mail.Traffic
import CoopKernel.Proofs.Kernel.Replay

/-! # Starting one task over

A restart concerns one task. It comes out of the ready list, wherever it stands there, loses its mail and
what it waited for, gets new registers, and goes in again behind its equals; only then does a pass look for
interrupts. The order of the two middle steps matters: a task whose links were forgotten while it was still
in the list would take everybody behind it along. `Restarts` says what comes of all this, for the task, for
the others and for the list, and `Run.restarts_one` that a restart does just this whenever the machine can
build the registers. With the task ready again nobody sleeps.
-/

namespace CoopKernel

open ReadyOrder

variable {width : Width} {M S : Type} {n : Nat}

/-- What a pass makes of a sequence of ready tasks: an interrupt task outside it joins it if an interrupt is pending, and
nobody else does. -/
structure ReadyOrder.Attended (rank : Fin n → Priority) (interruptTask : Option (Fin n)) (pending : Bool)
    (order final : List (Fin n)) : Prop where
  joined : ∀ place, interruptTask = some place → pending = true → place ∉ order → Joined rank place order final
  kept : (∀ place, interruptTask = some place → pending = true → place ∈ order) → final = order

namespace Kernel

variable {kernel started after : Kernel width M S n} {place chosen : Fin n}

section Passes

variable [Machine M S]

theorem Served.attended {rank : Fin n → Priority} {interruptTask : Option (Fin n)} {list ready : ReadyList n}
    {machine : M} (served : Served rank interruptTask list machine ready) (arranged : list.Arranged rank) :
    Attended rank interruptTask (Machine.interruptPending machine) list.toList ready.toList := by
  cases served with
  | kept unneeded =>
    refine ⟨fun place isInterruptTask pending absent => ?_, fun _ => rfl⟩
    exact absurd (arranged.formed.contains_iff.mp (unneeded place isInterruptTask pending)) absent
  | @readied minder _ isInterruptTask pending notContained inserted =>
    obtain ⟨-, listEq⟩ := arranged.formed.of_insert inserted
    have absent : minder ∉ list.toList := fun member => by
      rw [arranged.formed.contains_iff.mpr member] at notContained
      cases notContained
    refine ⟨fun place same _ _ => ?_, fun unneeded => absurd (unneeded minder isInterruptTask pending) absent⟩
    cases isInterruptTask.symm.trans same
    rw [listEq]
    exact joined_enqueue arranged.ranked absent

/-- A task outside the list is started if the machine can build its registers. -/
theorem startTask_comes {order : List (Fin n)} {settled : Fin n → Prop} {context : S} {machine : M}
    (threads : kernel.ready.Threads settled order) (absent : place ∉ order)
    (built : Machine.buildContext (.ofIndex place) (kernel.desc place) kernel.machine = .ok context machine) :
    ∃ started, startTask place kernel = .ok () started := by
  have finds : ∃ ready, (kernel.ready.isolate place).insert kernel.rank place = .ok ready := by
    obtain ⟨ready, inserted, -⟩ := (threads.isolate absent).insert (.inl rfl)
    exact ⟨ready, inserted⟩
  obtain ⟨ready, inserted⟩ := finds
  rw [← desc_resetTask place] at built
  have builds : onMachine (Machine.buildContext (.ofIndex place) ((kernel.resetTask place).desc place))
      (kernel.resetTask place) = .ok context { kernel.resetTask place with machine := machine } :=
    onMachine_ok_iff.mpr ⟨machine, built, rfl⟩
  have rebuilt : rebuildContext place (kernel.resetTask place) =
      .ok () ({ kernel.resetTask place with machine := machine }.changeContext place fun _ => context) := by
    rw [rebuildContext, get_bind, bind_of_ok builds]
    rfl
  have rankEq : ({ kernel.resetTask place with machine := machine }.changeContext place fun _ => context).rank =
      kernel.rank :=
    (rank_of_desc (desc_changeContext ..)).trans (rank_of_desc (desc_resetTask ..))
  rw [← rankEq] at inserted
  rw [startTask, modify_bind, bind_of_ok rebuilt]
  exact ⟨_, makeReady_ok_iff.mpr ⟨ready, inserted, rfl⟩⟩

/-- With a task ready a pass comes back. -/
theorem schedule_comes (formed : kernel.ready.WellFormed) (headed : kernel.ready.head ≠ none) :
    ∃ chosen after, schedule kernel = .ok chosen after := by
  cases came : schedule kernel with
  | ok chosen after => exact ⟨chosen, after, rfl⟩
  | error fault after => exact absurd (schedule_error formed came).headless headed

/-- A task that was started over is at least one to run. -/
theorem Started.headed {event : Event} (started : Started ((kernel.record event).unready place) place after)
    (formed : kernel.ready.WellFormed) : after.ready.head ≠ none := fun headless => by
  rw [(started.threads_over formed).head_eq, List.head?_eq_none_iff] at headless
  exact List.ne_nil_of_mem (mem_enqueue.mpr (.inl rfl)) headless

/-- A restart of a task comes back if the machine can build its registers. -/
theorem restart_comes {id : TaskId} {context : S} {machine : M} (formed : kernel.ready.WellFormed)
    (named : id.within n = some place)
    (built : Machine.buildContext (.ofIndex place) (kernel.desc place) kernel.machine = .ok context machine) :
    ∃ next after, restart id kernel = .ok (.ok next) after := by
  have removed : (kernel.ready.remove place).Threads (fun _ => True) (kernel.ready.toList.erase place) :=
    ReadyList.Threads.remove formed trivial
  obtain ⟨started, began⟩ : ∃ started, startTask place ((kernel.record (.restart id)).unready place) =
      .ok () started := startTask_comes removed formed.nodup.not_mem_erase built
  obtain ⟨next, after, passed⟩ :=
    schedule_comes ((startTask_ok began).threads_over formed).wellFormed ((startTask_ok began).headed formed)
  refine ⟨next, after, ?_⟩
  rw [restart, named]
  dsimp only
  rw [modify_bind, modify_bind, bind_of_ok began, bind_of_ok passed]
  rfl

/-- What a restart of a task leaves, with the task that is to run next. -/
structure Restarts (kernel : Kernel width M S n) (place next : Fin n) (after : Kernel width M S n) : Prop where
  /-- The task has new registers, no mail and nobody to wait for. The machine built the registers and did nothing else. -/
  renewed : ∃ context,
    Machine.buildContext (.ofIndex place) (kernel.desc place) kernel.machine = .ok context after.machine ∧
      after.taskAt place = ⟨kernel.desc place, context, .empty, .empty⟩
  /-- What is kept for the others stays, mail from the task among it. -/
  untouched : ∀ other, other ≠ place → after.taskAt other = kernel.taskAt other
  formed : after.ready.WellFormed
  /-- The task goes behind its equals, and then an interrupt may bring the interrupt task. -/
  readied : ∃ order, Joined kernel.rank place (kernel.ready.toList.erase place) order ∧
    Attended kernel.rank kernel.interruptTask (Machine.interruptPending after.machine) order after.ready.toList
  current_eq : after.current = some next
  head_eq : after.ready.toList.head? = some next
  interruptTask_eq : after.interruptTask = kernel.interruptTask

theorem restart_restarts {id : TaskId} (arranged : kernel.ready.Arranged kernel.rank)
    (named : id.within n = some place) (came : restart id kernel = .ok (.ok chosen) after) :
    Restarts kernel place chosen after := by
  rcases restart_ran came with ⟨unnamed, -, -⟩ | ⟨target, started, next, same, began, passed, answered⟩
  · cases named.symm.trans unnamed
  cases named.symm.trans same
  cases answered
  have scheduled := schedule_ok passed
  have readied := began.arranged arranged
  obtain ⟨formedAfter, -⟩ := scheduled.admits readied.formed
  obtain ⟨context, built, taskEq⟩ := began.taskAt_self
  constructor
  · refine ⟨context, ?_, ?_⟩
    · -- with the task ready the pass does not sleep
      rw [schedule_awake (began.headed arranged.formed) passed]
      exact built
    · rw [scheduled.taskAt_eq]
      exact taskEq
  · intro other apart
    rw [scheduled.taskAt_eq, began.taskAt_of_ne apart.symm]
    rfl
  · exact formedAfter
  · have ranked : Ranked kernel.rank (kernel.ready.toList.erase place) := arranged.ranked.sublist List.erase_sublist
    have joined := joined_enqueue ranked arranged.formed.nodup.not_mem_erase
    rw [← (began.threads_over arranged.formed).toList_eq] at joined
    have attended := scheduled.served.attended readied
    rw [rank_of_desc began.keeps.desc_eq, began.keeps.interruptTask_eq] at attended
    exact ⟨_, joined, attended⟩
  · exact scheduled.current_eq
  · rw [← formedAfter.head_eq, scheduled.head_eq]
  · exact scheduled.interruptTask_eq.trans began.keeps.interruptTask_eq

end Passes

end Kernel

namespace Run

variable [Machine M S] {fresh kernel : Kernel width M S n} {history : List (Moment width M S n)} {id : TaskId}
  {place : Fin n}

/-- In every state that a kernel on a table without empty sections reaches, and for every id of a task, a restart comes
back with a task to run exactly if the machine can build the registers. The task then is as after a start, stands
behind its equals, and the others are as they were. -/
theorem restarts_one {table : Vector TaskDesc n} {interruptTask : TaskId} {machine : M}
    (sections : ∀ place, (table.get place).firstEmpty = none)
    (made : Kernel.new table interruptTask machine = .ok fresh) (run : Run fresh history kernel)
    (named : id.within n = some place) :
    ((∃ next after, Kernel.restart id kernel = .ok (.ok next) after) ↔ ∃ context machine,
      Machine.buildContext (.ofIndex place) (kernel.desc place) kernel.machine = .ok context machine) ∧
    ∀ next after, Kernel.restart id kernel = .ok (.ok next) after → Kernel.Restarts kernel place next after := by
  have arranged := (run.orderly ((Kernel.new_ok made).orderly sections)).ready_arranged
  have restarts (next : Fin n) (after : Kernel width M S n) (came : Kernel.restart id kernel = .ok (.ok next) after) :
      Kernel.Restarts kernel place next after := Kernel.restart_restarts arranged named came
  refine ⟨⟨?_, ?_⟩, restarts⟩
  · rintro ⟨next, after, came⟩
    obtain ⟨context, built, -⟩ := (restarts next after came).renewed
    exact ⟨context, _, built⟩
  · rintro ⟨context, machine, built⟩
    exact Kernel.restart_comes arranged.formed named built

/-- The interrupt task of the demo sends mail and retires, and an interrupt comes. An application that has the mail is
started over while two others are ready: its mail is gone, it stands behind its equal, and the interrupt task is back
in front. -/
theorem restarts_one_demo : ∃ history kernel after, Run Demo.fresh history kernel ∧
    (TaskId.ofIndex 2).within 4 = some 2 ∧ kernel.ready.toList = [1, 2, 3] ∧ kernel.mail 2 = [⟨.ofIndex 0, 5⟩] ∧
    kernel.machine.pending = true ∧ Kernel.restart (.ofIndex 2) kernel = .ok (.ok 0) after ∧
    Kernel.Restarts kernel 2 0 after ∧ after.mail 2 = [] ∧ after.ready.toList = [0, 1, 3, 2] := by
  have computed : (replay? Demo.fresh [.call .init, .call (.send (.ofIndex 2) 5), .call .exit,
      .outside HostMachine.raise]).any (fun final =>
        decide (final.2.ready.toList = [1, 2, 3] ∧ final.2.mail 2 = [⟨.ofIndex 0, 5⟩] ∧
          final.2.machine.pending = true) &&
        Kernel.succeedsWith (Kernel.restart (.ofIndex 2)) final.2 fun answer after =>
          decide (answer = .ok 0 ∧ after.mail 2 = [] ∧ after.ready.toList = [0, 1, 3, 2])) = true := by
    decide +kernel
  obtain ⟨history, kernel, run, facts⟩ := Run.of_replay? computed
  rw [Bool.and_eq_true, decide_eq_true_eq] at facts
  obtain ⟨⟨listEq, mailEq, pending⟩, facts⟩ := facts
  obtain ⟨answer, after, came, facts⟩ := Kernel.succeedsWith_iff.mp facts
  obtain ⟨rfl, emptied, listAfter⟩ := of_decide_eq_true facts
  have named : (TaskId.ofIndex 2).within 4 = some 2 := by decide
  obtain ⟨-, restarts⟩ := restarts_one Demo.table_sections Demo.new_table run named
  exact ⟨history, kernel, after, run, named, listEq, mailEq, pending, came, restarts 0 after came, emptied, listAfter⟩

end Run

end CoopKernel
