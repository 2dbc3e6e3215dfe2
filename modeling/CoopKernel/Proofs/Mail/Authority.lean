import Mathlib.Data.List.Forall2
import CoopKernel.Proofs.Mail.Delivery
import CoopKernel.Proofs.Mail.Offers
import CoopKernel.Proofs.Kernel.Replay

/-! # Whose mail a task holds, and for whom it waits

The table says who may post to a task. `Guarded` is what this means for a task after any history: its
mailbox is no fuller than it can be, every entry in it was pushed by a task of the table while that task
was running and permitted, and the task waits for permitted senders only. The sender of an entry is never
taken from the caller's words, so this needs nothing of the calls (`Run.mail_guarded`).

`Pushes` ties an entry to the moment that pushed it. Different entries belong to different moments, which
come in the order of the entries; a selective receive drops one entry and leaves the others theirs.
-/

namespace CoopKernel

variable {width : Width} {M S : Type} {n : Nat}

section Lists

variable {α β : Type} {related : α → β → Prop} {items fewer : List α} {history : List β}

/-- Fewer items on the left are still found among those on the right. -/
theorem sublistForall₂_of_sublist (found : items.SublistForall₂ related history) (sublist : fewer.Sublist items) :
    fewer.SublistForall₂ related history := by
  induction found generalizing fewer with
  | nil =>
    rw [List.sublist_nil.mp sublist]
    exact .nil
  | cons here _ ih =>
    cases sublist with
    | cons _ later => exact .cons_right (ih later)
    | cons_cons _ later => exact .cons here (ih later)
  | cons_right _ ih => exact .cons_right (ih sublist)

theorem sublistForall₂_append_right (found : items.SublistForall₂ related history) (more : List β) :
    items.SublistForall₂ related (history ++ more) := by
  induction found with
  | nil => exact .nil
  | cons here _ ih => exact .cons here ih
  | cons_right _ ih => exact .cons_right ih

theorem sublistForall₂_concat (found : items.SublistForall₂ related history) {item : α} {last : β}
    (here : related item last) : (items ++ [item]).SublistForall₂ related (history ++ [last]) := by
  induction found with
  | @nil history =>
    induction history with
    | nil => exact .cons here .nil
    | cons _ _ ih => exact .cons_right ih
  | cons first _ ih => exact .cons first ih
  | cons_right _ ih => exact .cons_right ih

end Lists

namespace Kernel

variable {kernel after : Kernel width M S n} {place : Fin n}

/-- A task waits for senders that it permits, and for no others. -/
def WaitsPermitted (kernel : Kernel width M S n) (place : Fin n) : Prop :=
  ∀ id, (kernel.taskAt place).waiting.contains id = true → (kernel.desc place).permission.contains id = true

theorem waitsPermitted_of_empty (unwaiting : (kernel.taskAt place).waiting = .empty) :
    kernel.WaitsPermitted place := by
  intro id awaited
  rw [unwaiting, TaskMask.contains_empty] at awaited
  cases awaited

/-- A waiting mask that was cut down to the permission. -/
theorem waitsPermitted_of_inter (mask : TaskMask)
    (waitingEq : (kernel.taskAt place).waiting = mask ∩ (kernel.desc place).permission) :
    kernel.WaitsPermitted place := by
  intro id awaited
  rw [waitingEq, TaskMask.contains_inter, Bool.and_eq_true] at awaited
  exact awaited.2

theorem WaitsPermitted.congr (permitted : kernel.WaitsPermitted place)
    (waitingEq : (after.taskAt place).waiting = (kernel.taskAt place).waiting) (descEq : after.desc = kernel.desc) :
    after.WaitsPermitted place := by
  intro id awaited
  rw [waitingEq] at awaited
  rw [descEq]
  exact permitted id awaited

theorem WaitsPermitted.of_core (permitted : kernel.WaitsPermitted place) (same : after.core = kernel.core) :
    after.WaitsPermitted place :=
  permitted.congr (congrFun (congrArg Core.waiting same) place) (congrArg Core.desc same)

/-- An entry that arrives comes from a send, in the name of the task that was running. -/
theorem sender_of_arrival {call : Call width} {result : Answer width n} {entry : Entry width}
    (arrives : kernel.traffic place call result = .arrival entry) :
    ∃ sender receiver, kernel.current = some sender ∧ entry.sender = .ofIndex sender ∧
      call = .send receiver entry.message := by
  unfold traffic at arrives
  split at arrives
  · cases arrives
  · split at arrives <;> cases arrives
  · next receiver message outcome =>
    split at arrives
    · next sender isCaller =>
      split at arrives
      · cases arrives
        exact ⟨sender, receiver, isCaller, rfl, rfl⟩
      · cases arrives
    · cases arrives
  · split at arrives <;> cases arrives
  · cases arrives

/-- What a mailbox holds was in it before, or arrived, and is in order. -/
theorem Mailed.sublist {traffic : Traffic width} (mailed : Mailed kernel place after traffic) :
    (after.mail place).Sublist (kernel.mail place ++ traffic.arrival?.toList) := by
  cases mailed with
  | emptied mailEq =>
    rw [mailEq]
    exact List.nil_sublist _
  | arrival _ mailEq _ =>
    rw [mailEq]
    exact List.Sublist.refl _
  | departure _ _ _ mailEq =>
    rw [mailEq]
    exact (List.eraseIdx_sublist _ _).trans (List.sublist_append_left _ _)
  | quiet _ mailEq =>
    rw [mailEq]
    exact List.sublist_append_left _ _
  | ready mailEq _ =>
    rw [mailEq]
    exact List.sublist_append_left _ _
  | rests mailEq _ =>
    rw [mailEq]
    exact List.sublist_append_left _ _

theorem Mailed.mail_of_arrival {traffic : Traffic width} {entry : Entry width}
    (mailed : Mailed kernel place after traffic) (arrived : traffic.arrival? = some entry) :
    traffic = .arrival entry ∧ after.mail place = kernel.mail place ++ [entry] := by
  cases mailed with
  | arrival _ mailEq _ =>
    cases arrived
    exact ⟨rfl, mailEq⟩
  | _ => cases arrived

section Calls

variable [Machine M S]

theorem Started.waiting_eq (started : Started kernel place after) : (after.taskAt place).waiting = .empty := by
  obtain ⟨_, -, taskEq⟩ := started.taskAt_self
  rw [taskEq]

theorem Started.waitsPermitted {target : Fin n} (started : Started kernel target after)
    (permitted : kernel.WaitsPermitted place) : after.WaitsPermitted place := by
  by_cases here : target = place
  · subst here
    exact waitsPermitted_of_empty started.waiting_eq
  · exact permitted.congr (congrArg Task.waiting (started.taskAt_of_ne here)) started.keeps.desc_eq

theorem Starts.waitsPermitted {places : List (Fin n)} (starts : Starts places kernel after)
    (permitted : kernel.WaitsPermitted place) : after.WaitsPermitted place := by
  induction starts with
  | done => exact permitted
  | next _ started _ ih => exact ih (started.waitsPermitted permitted)

theorem init_waitsPermitted {result : Except ConfigError (Fin n)} (bootable : kernel.Bootable)
    (came : init kernel = .ok result after) (permitted : kernel.WaitsPermitted place) :
    after.WaitsPermitted place := by
  have cleared : Bootable { kernel with ready := kernel.ready.clear, current := none } := bootable
  rcases init_ok came with ⟨error, began, -⟩ | ⟨started, scheduled, chosen, began, passed, -, -, afterEq⟩
  · exact (startTasks_starts cleared began).2.waitsPermitted permitted
  · have startedPermitted : started.WaitsPermitted place := (startTasks_starts cleared began).2.waitsPermitted permitted
    have taskEq : after.taskAt place = started.taskAt place := by
      rw [afterEq]
      exact passed.taskAt_eq place
    have descEq : after.desc = started.desc := by
      rw [afterEq]
      exact passed.desc_eq
    exact startedPermitted.congr (congrArg Task.waiting taskEq) descEq

/-- A wait cuts the mask that it is given down to the permission, and an empty one leaves the old mask. -/
theorem wait_waitsPermitted {mask : TaskMask} {result : Except MailError Unit} {chosen : Fin n}
    (came : wait mask kernel = .ok (result, chosen) after) (isCaller : kernel.current = some place)
    (permitted : kernel.WaitsPermitted place) : after.WaitsPermitted place := by
  obtain ⟨caller, middle, known, -, waits, scheduled⟩ := wait_ok came
  cases known.symm.trans isCaller
  have taskEq := scheduled.taskAt_eq place
  have descEq := scheduled.desc_eq
  cases waits with
  | yields _ _ => exact permitted.congr (congrArg Task.waiting taskEq) descEq
  | stays _ _ _ =>
    have middlePermitted : (kernel.setWaiting place (mask ∩ (kernel.desc place).permission)).WaitsPermitted place := by
      apply waitsPermitted_of_inter mask
      rw [taskAt_setWaiting, if_pos rfl, desc_setWaiting]
    exact middlePermitted.congr (congrArg Task.waiting taskEq) descEq
  | blocks _ _ =>
    have middlePermitted :
        ((kernel.unready place).setWaiting place (mask ∩ (kernel.desc place).permission)).WaitsPermitted place := by
      apply waitsPermitted_of_inter mask
      rw [taskAt_setWaiting, if_pos rfl, desc_setWaiting]
      rfl
    exact middlePermitted.congr (congrArg Task.waiting taskEq) descEq

/-- No direct call makes a task wait for a sender that it does not permit. -/
theorem perform_waitsPermitted {call : Call width} {result : Answer width n} (orderly : kernel.Orderly)
    (direct : call ≠ .trap) (came : perform call kernel = .ok result after)
    (permitted : kernel.WaitsPermitted place) : after.WaitsPermitted place := by
  have descEq := (perform_sameTable direct came).desc_eq
  cases untouched : kernel.takesOut call place with
  | false => exact permitted.congr (perform_touches direct came untouched).waiting_eq descEq
  | true =>
    cases perform_ok came with
    | init came => exact init_waitsPermitted orderly.bootable came permitted
    | wait came => exact wait_waitsPermitted came (beq_iff_eq.mp untouched) permitted
    | yield came =>
      obtain ⟨_, _, -, -, scheduled⟩ := yieldTask_ok came
      exact permitted.congr (congrArg Task.waiting (scheduled.taskAt_eq place)) descEq
    | exit came =>
      obtain ⟨caller, isCaller, scheduled⟩ := exit_ok came
      have own : caller = place := Option.some.inj (isCaller.symm.trans (beq_iff_eq.mp untouched))
      apply waitsPermitted_of_empty
      rw [scheduled.taskAt_eq, own, taskAt_setWaiting, if_pos rfl]
    | restart came =>
      rcases restart_ok came with ⟨-, -, rfl⟩ | ⟨target, started, chosen, -, began, scheduled, -⟩
      · exact permitted
      · have startedPermitted : started.WaitsPermitted place := began.waitsPermitted permitted
        exact startedPermitted.congr (congrArg Task.waiting (scheduled.taskAt_eq place)) scheduled.desc_eq
    | schedule => cases untouched
    | send => cases untouched
    | receive => cases untouched
    | trap => exact absurd rfl direct

/-- The receiver of an entry that arrives permits its sender. -/
theorem permitted_of_arrival {call : Call width} {result : Answer width n} {entry : Entry width}
    (came : perform call kernel = .ok result after) (arrives : kernel.traffic place call result = .arrival entry)
    (mailEq : after.mail place = kernel.mail place ++ [entry]) :
    (kernel.desc place).permission.contains entry.sender = true := by
  obtain ⟨sender, receiver, isCaller, senderEq, rfl⟩ := sender_of_arrival arrives
  cases perform_ok came with
  | send sent =>
    cases send_touches sent place with
    | same taskEq =>
      rw [mail, taskEq, ← mail] at mailEq
      exact absurd (List.append_right_eq_self.mp mailEq.symm) (List.cons_ne_nil _ _)
    | posted isSender _ permitted _ _ =>
      cases isSender.symm.trans isCaller
      rw [senderEq]
      exact permitted

end Calls

end Kernel

/-- A moment pushed an entry: it put the entry behind the mail of a task, in the name of the task that was running. -/
structure Moment.Pushes (moment : Moment width M S n) (place : Fin n) (entry : Entry width) : Prop where
  sender_eq : ∃ sender, moment.before.current = some sender ∧ entry.sender = .ofIndex sender
  mail_eq : moment.after.mail place = moment.before.mail place ++ [entry]

/-- What the table makes sure of for a task, after a history. -/
structure Guarded (history : List (Moment width M S n)) (kernel : Kernel width M S n) (place : Fin n) : Prop where
  bounded : (kernel.mail place).length ≤ mailboxCapacity
  permitted : ∀ entry ∈ kernel.mail place, ∃ sender : Fin n, entry.sender = .ofIndex sender ∧
    (kernel.desc place).permission.contains (.ofIndex sender) = true
  pushed : (kernel.mail place).SublistForall₂ (fun entry moment => moment.Pushes place entry) history
  waits : kernel.WaitsPermitted place

section Histories

variable [Machine M S] {place : Fin n} {history : List (Moment width M S n)}

/-- Traffic of any kind leaves entries of permitted senders only, each pushed by a moment of its own. -/
theorem Moment.guarded {moment : Moment width M S n} (came : moment.Came) (orderly : moment.before.Orderly)
    (guarded : Guarded history moment.before place) : Guarded (history ++ [moment]) moment.after place := by
  have bounded : (moment.after.mail place).length ≤ mailboxCapacity := by
    rw [Kernel.mail, Mailbox.length_entries]
    exact (moment.after.taskAt place).mailbox.count_le
  rcases performs_or_keeps came with ⟨call, result, middle, performs⟩ | ⟨-, same⟩
  · have mailed := Kernel.perform_mails orderly.bootable orderly.formed performs.direct performs.performed place
    have mailEq : moment.after.mail place = middle.mail place := Kernel.mail_of_core performs.core_eq place
    have descEq : moment.after.desc = moment.before.desc := (sameTable came).desc_eq
    have waits : moment.after.WaitsPermitted place :=
      (Kernel.perform_waitsPermitted orderly performs.direct performs.performed guarded.waits).of_core performs.core_eq
    have sublist := mailed.sublist
    cases arrived : (moment.before.traffic place call result).arrival? with
    | none =>
      rw [arrived, Option.toList_none, List.append_nil] at sublist
      refine ⟨bounded, ?_, ?_, waits⟩
      · rw [mailEq, descEq]
        exact fun entry inside => guarded.permitted entry (sublist.subset inside)
      · rw [mailEq]
        exact sublistForall₂_append_right (sublistForall₂_of_sublist guarded.pushed sublist) _
    | some newest =>
      obtain ⟨arrives, arrivedEq⟩ := mailed.mail_of_arrival arrived
      obtain ⟨sender, _, isCaller, senderEq, -⟩ := Kernel.sender_of_arrival arrives
      refine ⟨bounded, ?_, ?_, waits⟩
      · rw [mailEq, descEq, arrivedEq]
        intro entry inside
        rw [List.mem_append, List.mem_singleton] at inside
        rcases inside with older | rfl
        · exact guarded.permitted entry older
        · have permitted := Kernel.permitted_of_arrival performs.performed arrives arrivedEq
          exact ⟨sender, senderEq, senderEq ▸ permitted⟩
      · rw [mailEq, arrivedEq]
        exact sublistForall₂_concat guarded.pushed ⟨⟨sender, isCaller, senderEq⟩, mailEq.trans arrivedEq⟩
  · have mailEq : moment.after.mail place = moment.before.mail place := Kernel.mail_of_core same place
    have descEq : moment.after.desc = moment.before.desc := congrArg Core.desc same
    refine ⟨bounded, ?_, ?_, Kernel.WaitsPermitted.of_core guarded.waits same⟩
    · rw [mailEq, descEq]
      exact guarded.permitted
    · rw [mailEq]
      exact sublistForall₂_append_right guarded.pushed _

theorem Kernel.Booted.waitsPermitted {start : Kernel width M S n} (booted : start.Booted) (place : Fin n) :
    start.WaitsPermitted place := by
  obtain ⟨_, _, _, _, _, made, began⟩ := booted
  have fresh := Kernel.new_ok made
  exact Kernel.init_waitsPermitted (Kernel.init_sections began) began
    (Kernel.waitsPermitted_of_empty (fresh.waiting_eq place))

theorem Guarded.of_booted {start : Kernel width M S n} (booted : start.Booted) (place : Fin n) :
    Guarded [] start place := by
  have mailEq : start.mail place = [] := booted.mail_eq place
  refine ⟨?_, ?_, ?_, booted.waitsPermitted place⟩
  · rw [mailEq]
    exact Nat.zero_le _
  · rw [mailEq]
    exact fun _ inside => absurd inside List.not_mem_nil
  · rw [mailEq]
    exact .nil

namespace Run

variable {start kernel : Kernel width M S n}

/-- From a booted kernel on, every mailbox holds no more than it can; every entry in it was pushed by a task of the
table that was running then, and that the owner permits; and no task waits for a sender that it does not permit. -/
theorem mail_guarded (booted : start.Booted) (run : Run start history kernel) (place : Fin n) :
    Guarded history kernel place := by
  induction run with
  | start => exact .of_booted booted place
  | step earlier came ih => exact Moment.guarded came (earlier.orderly booted.orderly) ih

/-- The interrupt task of the demo sends to one of the equals and retires, and the timer sends to everybody and waits for
everybody. The timer is left with the interrupt task; the equal receives from the timer, and keeps the mail of the
task that retired. -/
theorem mail_guarded_demo : ∃ history kernel, Run Demo.started history kernel ∧
    kernel.mail 2 = [⟨.ofIndex 0, 5⟩] ∧ (kernel.taskAt 1).waiting = .ofPlace 0 ∧
    kernel.isReady (.ofIndex 0) = false ∧ Guarded history kernel 1 ∧ Guarded history kernel 2 := by
  have computed : (replay? Demo.started [.call (.send (.ofIndex 2) 5), .call .exit, .call (.send .everyone 9),
      .call (.wait .full), .call (.wait (.ofPlace 1)), .call .yield, .call .receive]).any (fun final =>
        decide (final.2.mail 2 = [⟨.ofIndex 0, 5⟩] ∧ (final.2.taskAt 1).waiting = .ofPlace 0 ∧
          final.2.isReady (.ofIndex 0) = false)) = true := by
    decide +kernel
  obtain ⟨history, kernel, run, facts⟩ := Run.of_replay? computed
  obtain ⟨mailEq, waitingEq, retired⟩ := of_decide_eq_true facts
  exact ⟨history, kernel, run, mailEq, waitingEq, retired, mail_guarded Demo.booted_started run 1,
    mail_guarded Demo.booted_started run 2⟩

end Run

end Histories

end CoopKernel
