import CoopKernel.Proofs.Kernel.Movement
import CoopKernel.Proofs.Kernel.Replay

/-! # The walk along the ready tasks

`Orderly` is the invariant of scheduling: the links thread a sequence in the order of priorities, and
the task that runs is in it. A call keeps it because it only takes places out and makes places ready,
which `perform_moves` says of every call at once; a second `init`, which starts from stale links, is no
exception. `WalkSound` spells out what the invariant means for links, ids and priorities, and holds
after every run of a new kernel whose table has no empty section.
-/

namespace CoopKernel

open ReadyOrder

variable {width : Width} {M S : Type} {n : Nat}

namespace Kernel

variable {kernel after : Kernel width M S n}

/-- The invariant of scheduling. -/
structure Orderly (kernel : Kernel width M S n) : Prop where
  bootable : kernel.Bootable
  formed : kernel.ready.WellFormed
  ranked : Ranked kernel.rank kernel.ready.toList
  current_mem : ∀ place, kernel.current = some place → place ∈ kernel.ready.toList

theorem Fresh.toList_eq {table : Vector TaskDesc n} (fresh : kernel.Fresh table) : kernel.ready.toList = [] := by
  rw [fresh.ready_eq]
  exact ReadyList.threads_empty.toList_eq

theorem Fresh.orderly {table : Vector TaskDesc n} (fresh : kernel.Fresh table)
    (sections : ∀ place, (table.get place).firstEmpty = none) : kernel.Orderly := by
  have formed : kernel.ready.WellFormed := by
    rw [fresh.ready_eq]
    exact .empty
  have ranked : Ranked kernel.rank kernel.ready.toList := by
    rw [fresh.toList_eq]
    exact .nil
  refine ⟨fun place => by rw [fresh.desc_eq, sections], formed, ranked, fun place isCurrent => ?_⟩
  cases fresh.current_eq.symm.trans isCurrent

/-- Saved registers, machine and trace do not matter to scheduling. -/
theorem Orderly.of_core (orderly : kernel.Orderly) (same : after.core = kernel.core) : after.Orderly := by
  have descEq : after.desc = kernel.desc := congrArg Core.desc same
  have readyEq : after.ready = kernel.ready := congrArg Core.ready same
  have currentEq : after.current = kernel.current := congrArg Core.current same
  refine ⟨?_, ?_, ?_, ?_⟩
  · rw [Bootable, descEq]
    exact orderly.bootable
  · rw [readyEq]
    exact orderly.formed
  · rw [readyEq, rank_of_desc descEq]
    exact orderly.ranked
  · rw [readyEq, currentEq]
    exact orderly.current_mem

/-- Who runs after a call is ready, if who ran before it was. -/
theorem Movement.current_mem {call : Call width} {result : Answer width n}
    (movement : Movement kernel call result after)
    (seated : ∀ place, kernel.current = some place → place ∈ kernel.ready.toList) :
    ∀ place, after.current = some place → place ∈ after.ready.toList := by
  intro place isCurrent
  cases choice : result.chosen? with
  | some chosen =>
    obtain ⟨currentEq, headEq⟩ := movement.chosen chosen choice
    cases isCurrent.symm.trans currentEq
    rw [movement.formed.head_eq] at headEq
    exact List.mem_of_head? headEq
  | none =>
    -- a call that chooses nobody leaves the current task current, and in the list
    obtain ⟨currentEq, stays⟩ := movement.kept choice
    refine movement.admits.mem_of_mem (List.mem_filter.mpr ⟨seated place ?_, ?_⟩)
    · rw [← currentEq, isCurrent]
    · rw [stays, Bool.not_false]

/-- Taking places out and making places ready keeps the invariant. -/
theorem Movement.orderly {call : Call width} {result : Answer width n}
    (movement : Movement kernel call result after)
    (orderly : kernel.Orderly) : after.Orderly where
  bootable := by
    rw [Bootable, movement.desc_eq]
    exact orderly.bootable
  formed := movement.formed
  ranked := by
    rw [rank_of_desc movement.desc_eq]
    exact movement.admits.ranked (orderly.ranked.filter _)
  current_mem := movement.current_mem orderly.current_mem

/-- Whatever happens keeps the invariant. -/
theorem Orderly.moment [Machine M S] {moment : Moment width M S n} (orderly : moment.before.Orderly)
    (came : moment.Came) :
    moment.after.Orderly := by
  rcases Moment.performs_or_keeps came with ⟨call, result, middle, performs⟩ | ⟨-, same⟩
  · have movement := perform_moves orderly.bootable orderly.formed performs.direct performs.performed
    exact (movement.orderly orderly).of_core performs.core_eq
  · exact orderly.of_core same

/-- A kernel that was started came from a table without empty sections. -/
theorem Booted.orderly [Machine M S] (booted : kernel.Booted) : kernel.Orderly := by
  obtain ⟨table, interruptTask, machine, fresh, first, made, began⟩ := booted
  have isFresh := new_ok made
  have bootable := init_sections began
  have orderly : fresh.Orderly := isFresh.orderly fun place => by rw [← isFresh.desc_eq, bootable place]
  exact (init_moves bootable began).orderly orderly

/-- What links, ids and priorities show of the ready tasks: the walk from the head. -/
structure WalkSound (kernel : Kernel width M S n) : Prop where
  length_le : kernel.ready.toList.length ≤ n
  /-- The walk ends: more steps find no more tasks. -/
  readyTasks_eq : ∀ steps, kernel.ready.toList.length ≤ steps → kernel.readyTasks steps = kernel.ready.toList
  nodup : kernel.ready.toList.Nodup
  head_eq : kernel.ready.head = kernel.ready.toList.head?
  links_eq : ∀ front place back, kernel.ready.toList = front ++ place :: back →
    kernel.ready.links.get place = ⟨back.head?, front.getLast?⟩
  links_of_notMem : ∀ place, place ∉ kernel.ready.toList → kernel.ready.links.get place = ⟨none, none⟩
  descending : kernel.ready.toList.Pairwise fun earlier later =>
    (kernel.rank later).level ≤ (kernel.rank earlier).level
  isReady_iff : ∀ id, kernel.isReady id = true ↔ ∃ place ∈ kernel.ready.toList, id = .ofIndex place
  current_mem : ∀ place, kernel.current = some place → place ∈ kernel.ready.toList

theorem Orderly.walkSound (orderly : kernel.Orderly) : kernel.WalkSound where
  length_le := orderly.formed.length_le
  readyTasks_eq _ enough := orderly.formed.walk_eq enough
  nodup := orderly.formed.nodup
  head_eq := orderly.formed.head_eq
  links_eq front place back split := by
    have nodup := orderly.formed.nodup
    rw [split] at nodup
    obtain ⟨absent, -⟩ := List.nodup_cons.mp (List.nodup_middle.mp nodup)
    rw [orderly.formed.links_eq place trivial, split,
      following_append_cons fun inside => absent (List.mem_append_left _ inside),
      preceding_append_cons fun inside => absent (List.mem_append_right _ inside)]
  links_of_notMem _ absent := orderly.formed.links_of_notMem trivial absent
  descending := by
    refine orderly.ranked.imp fun notHigher => ?_
    simpa [Priority.outranks] using notHigher
  isReady_iff := orderly.formed.containsId_iff (Nat.le_trans kernel.fits (by decide))
  current_mem := orderly.current_mem

end Kernel

/-- Nothing that happens changes the table, or which task is the interrupt task. -/
theorem Moment.sameTable [Machine M S] {moment : Moment width M S n} (came : moment.Came) :
    Kernel.SameTable moment.before moment.after := by
  rcases performs_or_keeps came with ⟨call, result, middle, performs⟩ | ⟨-, same⟩
  · have performed := Kernel.perform_sameTable performs.direct performs.performed
    exact ⟨(congrArg Core.desc performs.core_eq).trans performed.desc_eq,
      (congrArg Core.interruptTask performs.core_eq).trans performed.interruptTask_eq⟩
  · exact ⟨congrArg Core.desc same, congrArg Core.interruptTask same⟩

namespace Run

variable [Machine M S] {start fresh kernel : Kernel width M S n} {history : List (Moment width M S n)}

theorem orderly (run : Run start history kernel) (orderly : start.Orderly) : kernel.Orderly := by
  induction run with
  | start => exact orderly
  | step _ came ih => exact ih.moment came

theorem sameTable (run : Run start history kernel) : Kernel.SameTable start kernel := by
  induction run with
  | start => exact ⟨rfl, rfl⟩
  | step _ came ih => exact ih.trans (Moment.sameTable came)

/-- Whatever happens to a kernel made from a table without empty sections, the walk along its ready tasks stays
sound. -/
theorem walk_sound {table : Vector TaskDesc n} {interruptTask : TaskId} {machine : M}
    (sections : ∀ place, (table.get place).firstEmpty = none)
    (made : Kernel.new table interruptTask machine = .ok fresh) (run : Run fresh history kernel) :
    kernel.WalkSound :=
  (run.orderly ((Kernel.new_ok made).orderly sections)).walkSound

/-- The demo starts; its interrupt task retires, its timer waits, and an interrupt brings the first back while
one of the equals retires. -/
theorem walk_sound_demo : ∃ history kernel, Run Demo.fresh history kernel ∧ kernel.ready.toList = [0, 3] ∧
    kernel.WalkSound := by
  have computed : (replay? Demo.fresh [.call .init, .call .exit, .call (.wait .full), .outside HostMachine.raise,
      .call .exit]).any (fun final => decide (final.2.ready.toList = [0, 3])) = true := by
    decide +kernel
  obtain ⟨history, kernel, run, listEq⟩ := Run.of_replay? computed
  exact ⟨history, kernel, run, of_decide_eq_true listEq, walk_sound Demo.table_sections Demo.new_table run⟩

end Run

end CoopKernel
