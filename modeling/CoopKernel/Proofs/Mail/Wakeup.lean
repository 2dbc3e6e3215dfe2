import CoopKernel.Proofs.Mail.Traffic
import CoopKernel.Proofs.Scheduling.Walk

/-! # No wakeup is lost

A task that waits decides by what is in its mailbox, and a delivery decides by what the receiver waits
for; the two happen in different calls. `Wakeful` is what they keep between them: a task is ready, or
nothing in its mailbox is from anyone it waits for. Every kind of traffic keeps it, so it holds after
every run of a new kernel.
-/

namespace CoopKernel

variable {width : Width} {M S : Type} {n : Nat}

namespace Kernel

variable {kernel after : Kernel width M S n} {place : Fin n}

/-- A task is ready, or has no mail from anyone it waits for. -/
def Wakeful (kernel : Kernel width M S n) (place : Fin n) : Prop :=
  place ∈ kernel.ready.toList ∨ ∀ entry ∈ kernel.mail place,
    (kernel.taskAt place).waiting.contains entry.sender = false

theorem Wakeful.of_core (wakeful : kernel.Wakeful place) (same : after.core = kernel.core) :
    after.Wakeful place := by
  have readyEq : after.ready = kernel.ready := congrArg Core.ready same
  have waitingEq : (after.taskAt place).waiting = (kernel.taskAt place).waiting :=
    congrFun (congrArg Core.waiting same) place
  rw [Wakeful, mail_of_core same, readyEq, waitingEq]
  exact wakeful

/-- Traffic of any kind leaves a task ready or without mail that it waits for. -/
theorem Mailed.wakeful {traffic : Traffic width} (mailed : Mailed kernel place after traffic)
    (wakeful : kernel.Wakeful place) : after.Wakeful place := by
  cases mailed with
  | emptied mailEq =>
    apply Or.inr
    intro entry inside
    rw [mailEq] at inside
    exact absurd inside List.not_mem_nil
  | @arrival newest attends mailEq woken =>
    rcases wakeful with member | unwanted
    · exact .inl (attends.stays member)
    · by_cases awaited : (kernel.taskAt place).waiting.contains newest.sender = true
      · exact .inl (woken awaited)
      · apply Or.inr
        intro entry inside
        rw [attends.waiting_eq]
        rw [mailEq, List.mem_append, List.mem_singleton] at inside
        rcases inside with older | rfl
        · exact unwanted entry older
        · exact Bool.eq_false_iff.mpr awaited
  | departure attends _ _ mailEq =>
    refine wakeful.imp attends.stays ?_
    intro unwanted entry inside
    rw [mailEq] at inside
    rw [attends.waiting_eq]
    exact unwanted entry (List.mem_of_mem_eraseIdx inside)
  | quiet attends mailEq =>
    refine wakeful.imp attends.stays ?_
    rw [mailEq, attends.waiting_eq]
    exact id
  | ready _ member => exact .inl member
  | rests _ unwanted => exact .inr unwanted

theorem Fresh.mail_eq {table : Vector TaskDesc n} (fresh : kernel.Fresh table) (place : Fin n) :
    kernel.mail place = [] := by
  rw [mail, fresh.mailbox_eq]
  exact Mailbox.entries_empty

end Kernel

namespace Run

variable [Machine M S] {start fresh kernel : Kernel width M S n} {history : List (Moment width M S n)}

theorem wakeful (run : Run start history kernel) (orderly : start.Orderly) {place : Fin n}
    (wakeful : start.Wakeful place) :
    kernel.Wakeful place := by
  induction run with
  | start => exact wakeful
  | step earlier came ih =>
    have before := earlier.orderly orderly
    obtain ⟨middle, mailed, same⟩ := Moment.mails came before.bootable before.formed place
    exact (mailed.wakeful ih).of_core same

/-- Whatever happens to a kernel made from a table without empty sections, a task outside the ready list has no mail
from anyone it waits for. -/
theorem no_lost_wakeup {table : Vector TaskDesc n} {interruptTask : TaskId} {machine : M}
    (sections : ∀ place, (table.get place).firstEmpty = none)
    (made : Kernel.new table interruptTask machine = .ok fresh) (run : Run fresh history kernel) (place : Fin n)
    (notReady : kernel.ready.contains place = false) (entry : Entry width) (buffered : entry ∈ kernel.mail place) :
    (kernel.taskAt place).waiting.contains entry.sender = false := by
  have isFresh := Kernel.new_ok made
  have orderly := isFresh.orderly sections
  have formed := (run.orderly orderly).formed
  have atFirst : fresh.Wakeful place := by
    apply Or.inr
    intro entry inside
    rw [isFresh.mail_eq] at inside
    exact absurd inside List.not_mem_nil
  rcases run.wakeful orderly atFirst with member | unwanted
  · cases notReady.symm.trans (formed.contains_iff.mpr member)
  · exact unwanted entry buffered

/-- One of the equals in the demo has mail from the interrupt task, and waits for the other one. -/
theorem no_lost_wakeup_demo : ∃ history kernel, Run Demo.fresh history kernel ∧
    kernel.ready.contains 2 = false ∧ (kernel.taskAt 2).waiting = .ofPlace 3 ∧
    ∃ entry ∈ kernel.mail 2, entry.sender = .ofIndex 0 ∧ (kernel.taskAt 2).waiting.contains entry.sender = false := by
  have computed :
    (replay? Demo.fresh [.call .init, .call (.send (.ofIndex 2) ⟨7⟩), .call .exit, .call (.wait .full),
      .call (.wait (.ofPlace 3))]).any (fun final => decide (final.2.ready.contains 2 = false ∧
        (final.2.taskAt 2).waiting = .ofPlace 3 ∧ final.2.mail 2 = [⟨.ofIndex 0, ⟨7⟩⟩])) = true := by
    decide +kernel
  obtain ⟨history, kernel, run, facts⟩ := Run.of_replay? computed
  obtain ⟨notReady, waitingEq, mailEq⟩ := of_decide_eq_true facts
  have buffered : ⟨.ofIndex 0, ⟨7⟩⟩ ∈ kernel.mail 2 := by
    rw [mailEq]
    exact List.mem_singleton_self _
  exact ⟨history, kernel, run, notReady, waitingEq, _, buffered, rfl,
    no_lost_wakeup Demo.table_sections Demo.new_table run 2 notReady _ buffered⟩

end Run

end CoopKernel
