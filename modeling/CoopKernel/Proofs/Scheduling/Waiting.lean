import CoopKernel.Proofs.Kernel.Passes
import CoopKernel.Proofs.Kernel.Replay
import CoopKernel.Proofs.Mail.Offers

/-! # Waiting beside yielding

A wait rearranges the ready list before its pass in one of two ways: it puts the caller back behind its
equals, as a yield does, or it leaves the caller out. What it does about the waiting mask is of no
concern to a pass. So a wait comes out as a yield, as a yield with a new mask, or as a pass over a list
without the caller (`WaitEnds`), whichever task the pass chooses and however often it sleeps.
-/

namespace CoopKernel

namespace Kernel

variable {width : Width} {M S : Type} {n : Nat} [Machine M S] {kernel other middle after : Kernel width M S n}
  {place chosen : Fin n} {wanted : TaskMask}

/-- How a wait for a set of wanted senders ends, compared with other operations on the same kernel. The trace is left
open. -/
inductive WaitEnds (kernel : Kernel width M S n) (place : Fin n) (wanted : TaskMask) (chosen : Fin n) :
    Kernel width M S n → Prop
  | yields {yielded : Kernel width M S n} {trace : KernelTrace} (nobody : wanted.isEmpty = true)
      (came : yieldTask kernel = .ok chosen yielded)
      (kept : (yielded.taskAt place).waiting = (kernel.taskAt place).waiting) :
      WaitEnds kernel place wanted chosen { yielded with trace := trace }
  | supplied {yielded : Kernel width M S n} {trace : KernelTrace} (somebody : wanted.isEmpty = false)
      (hasMail : ∃ entry ∈ kernel.mail place, wanted.contains entry.sender = true)
      (came : yieldTask kernel = .ok chosen yielded) :
      WaitEnds kernel place wanted chosen { yielded.setWaiting place wanted with trace := trace }
  | blocks {passed : Kernel width M S n} {trace : KernelTrace} (somebody : wanted.isEmpty = false)
      (noMail : ∀ entry ∈ kernel.mail place, wanted.contains entry.sender = false)
      (came : schedule ((kernel.unready place).setWaiting place wanted) = .ok chosen passed) :
      WaitEnds kernel place wanted chosen { passed with trace := trace }

/-- A pass leaves the tasks alone. Where kernels that look the same to it differ in them, they differ afterwards as
before. -/
theorem SameOutlook.exists_schedule (same : SameOutlook kernel other)
    (came : Kernel.schedule kernel = .ok chosen after) :
    ∃ later, Kernel.schedule other = .ok chosen later ∧ later.tasks = other.tasks ∧
      after = { later with tasks := kernel.tasks, trace := after.trace } := by
  have scheduled := schedule_ok came
  obtain ⟨later, cameOther, laterEq⟩ := same.schedule came
  refine ⟨later, cameOther, by rw [laterEq], ?_⟩
  have afterEq := scheduled.after_eq
  rw [← scheduled.current_eq, ← same.interruptTask_eq] at afterEq
  rw [laterEq]
  exact afterEq

/-- A pass that begins as that of a yield does ends as it does. -/
theorem SameOutlook.exists_yield {ready : ReadyList n} (same : SameOutlook middle { kernel with ready := ready })
    (isCaller : kernel.current = some place)
    (inserted : (kernel.ready.remove place).insert kernel.rank place = .ok ready)
    (came : Kernel.schedule middle = .ok chosen after) :
    ∃ yielded, yieldTask kernel = .ok chosen yielded ∧ yielded.tasks = kernel.tasks ∧
      after = { yielded with tasks := middle.tasks, trace := after.trace } := by
  have recorded : SameOutlook middle ({ kernel with ready := ready }.record (.yield (.ofIndex place))) :=
    ⟨same.ready_eq, same.rank_eq, same.interruptTask_eq, same.machine_eq⟩
  rw [yieldTask_approached (approach_yield isCaller inserted)]
  exact recorded.exists_schedule came

/-- Behind the approach of a wait, a pass ends the wait. -/
theorem Waits.ends {front : Kernel width M S n} {event : Event} (waits : Waits kernel place wanted front)
    (isCaller : kernel.current = some place) (came : schedule (front.record event) = .ok chosen after) :
    WaitEnds kernel place wanted chosen after := by
  cases waits with
  | @yields ready nobody inserted =>
    have same : SameOutlook ({ kernel with ready := ready }.record event) { kernel with ready := ready } :=
      ⟨rfl, rfl, rfl, rfl⟩
    obtain ⟨yielded, cameYield, tasksEq, afterEq⟩ := same.exists_yield isCaller inserted came
    have kept : yielded.taskAt place = kernel.taskAt place := by rw [taskAt, tasksEq, taskAt]
    rw [afterEq]
    change WaitEnds kernel place wanted chosen { yielded with tasks := kernel.tasks, trace := after.trace }
    rw [← tasksEq]
    exact .yields nobody cameYield (by rw [kept])
  | @stays ready somebody hasMail inserted =>
    have same : SameOutlook ({ kernel.setWaiting place wanted with ready := ready }.record event)
        { kernel with ready := ready } :=
      ⟨rfl, (rank_of_desc (desc_setWaiting place wanted)).symm, rfl, rfl⟩
    obtain ⟨yielded, cameYield, tasksEq, afterEq⟩ := same.exists_yield isCaller inserted came
    rw [hasMailFrom_eq, List.any_eq_true] at hasMail
    have waitingEq : (yielded.setWaiting place wanted).tasks = (kernel.setWaiting place wanted).tasks := by
      rw [setWaiting, changeTask, taskAt, tasksEq]
      rfl
    rw [afterEq]
    change WaitEnds kernel place wanted chosen
      { yielded with tasks := (kernel.setWaiting place wanted).tasks, trace := after.trace }
    rw [← waitingEq]
    exact .supplied somebody hasMail cameYield
  | blocks somebody noMail =>
    have same : SameOutlook (((kernel.unready place).setWaiting place wanted).record event)
        ((kernel.unready place).setWaiting place wanted) := ⟨rfl, rfl, rfl, rfl⟩
    obtain ⟨passed, camePass, tasksEq, afterEq⟩ := same.exists_schedule came
    rw [hasMailFrom_eq, List.any_eq_false] at noMail
    rw [afterEq]
    change WaitEnds kernel place wanted chosen
      { passed with tasks := ((kernel.unready place).setWaiting place wanted).tasks, trace := after.trace }
    rw [← tasksEq]
    exact .blocks somebody (fun entry member => Bool.eq_false_iff.mpr (noMail entry member)) camePass

end Kernel

namespace Run

variable {width : Width} {M S : Type} {n : Nat} [Machine M S] {fresh kernel : Kernel width M S n}
  {history : List (Moment width M S n)} {caller : Fin n}

/-- In every state that a kernel on a table without empty sections reaches, a wait of the task that runs gets as far as
its scheduling pass. It comes back if the pass does, with a success, and then it has done what a yield does, or a yield
and a new waiting mask, or a pass without the caller, by the mask and the mail. What is kept for the other tasks stays
as it is. -/
theorem wait_yields_or_blocks {table : Vector TaskDesc n} {interruptTask : TaskId} {machine : M}
    (sections : ∀ place, (table.get place).firstEmpty = none)
    (made : Kernel.new table interruptTask machine = .ok fresh) (run : Run fresh history kernel)
    (isCaller : kernel.current = some caller) (mask : TaskMask) :
    ∃ middle, Kernel.approach (.wait mask) kernel = .ok none middle ∧
      (∀ result chosen after, Kernel.wait mask kernel = .ok (result, chosen) after ↔
        result = .ok () ∧ Kernel.schedule middle = .ok chosen after) ∧
      ∀ chosen after, Kernel.schedule middle = .ok chosen after →
        Kernel.WaitEnds kernel caller (mask ∩ (kernel.desc caller).permission) chosen after ∧
          ∀ other, other ≠ caller → after.taskAt other = kernel.taskAt other := by
  have formed := (run.orderly ((Kernel.new_ok made).orderly sections)).formed
  obtain ⟨front, event, waits, approached⟩ := Kernel.approach_wait formed isCaller mask
  refine ⟨_, approached, fun _ _ _ => Kernel.wait_ok_iff approached, fun chosen after came => ?_⟩
  refine ⟨waits.ends isCaller came, ?_⟩
  have waited := (Kernel.wait_ok_iff approached).mpr ⟨rfl, came⟩
  exact fun other apart => Kernel.wait_taskAt_of_ne waited isCaller apart.symm

/-- In the demo an application waits for mail that it already has, while an interrupt is pending. The pass puts the
interrupt task in front, as after a yield, and the new mask stays. -/
theorem wait_yields_or_blocks_demo : ∃ history kernel yielded after, Run Demo.fresh history kernel ∧
    kernel.current = some 2 ∧ kernel.ready.toList = [2, 3] ∧ kernel.mail 2 = [⟨.ofIndex 3, 9⟩] ∧
    Kernel.wait ⟨8⟩ kernel = .ok (.ok (), 0) after ∧ Kernel.yieldTask kernel = .ok 0 yielded ∧
    after = { yielded.setWaiting 2 ⟨8⟩ with trace := after.trace } := by
  have computed : (replay? Demo.fresh [.call .init, .call .exit, .call (.wait ⟨1⟩), .call .yield,
      .call (.send (.ofIndex 2) 9), .call .yield, .outside HostMachine.raise]).any (fun final =>
        decide (final.2.current = some 2 ∧ final.2.ready.toList = [2, 3] ∧ final.2.mail 2 = [⟨.ofIndex 3, 9⟩] ∧
          (⟨8⟩ ∩ (final.2.desc 2).permission : TaskMask) = ⟨8⟩) &&
        Kernel.succeedsWith (Kernel.wait ⟨8⟩) final.2 fun answer _ => decide (answer = (.ok (), 0))) = true := by
    decide +kernel
  obtain ⟨history, kernel, run, facts⟩ := Run.of_replay? computed
  rw [Bool.and_eq_true, decide_eq_true_eq] at facts
  obtain ⟨⟨isCaller, listEq, mailEq, wantedEq⟩, facts⟩ := facts
  obtain ⟨middle, approached, waitIff, ends⟩ :=
    wait_yields_or_blocks Demo.table_sections Demo.new_table run isCaller ⟨8⟩
  obtain ⟨answer, after, came, answered⟩ := Kernel.succeedsWith_iff.mp facts
  obtain rfl := of_decide_eq_true answered
  obtain ⟨-, scheduled⟩ := (waitIff (.ok ()) 0 after).mp came
  obtain ⟨ends, -⟩ := ends 0 after scheduled
  rw [wantedEq] at ends
  cases ends with
  | yields nobody => cases nobody
  | supplied _ _ cameYield => exact ⟨history, kernel, _, _, run, isCaller, listEq, mailEq, came, cameYield, rfl⟩
  | blocks _ noMail =>
    have wanted := noMail ⟨.ofIndex 3, 9⟩ (mailEq ▸ List.mem_singleton_self _)
    cases wanted

end Run

end CoopKernel
