import CoopKernel.Proofs.Config.Resolution
import CoopKernel.Proofs.Mail.Refusal

/-! # The senders of an application are the policy of its kernel

Who may post to whom is said by name in an application, and checked bit by bit whenever a message is
sent. The table never changes while the kernel runs, so at any time the check of a message comes to what
the application says about its two tasks (`Run.senders_enforced`): whoever is not among the senders is
refused, and a broadcast reaches all that admit its sender and have room.
-/

namespace CoopKernel

variable {width : Width} {M S : Type}

namespace Kernel

variable {n : Nat} {kernel after : Kernel width M S n} {sender receiver : Fin n} {message : Message width}

theorem accepts_iff :
    kernel.accepts sender receiver = true ↔
      kernel.permits sender receiver = true ∧ (kernel.mail receiver).length < mailboxCapacity := by
  have most : (kernel.mail receiver).length ≤ mailboxCapacity := by
    rw [mail, Mailbox.length_entries]
    exact (kernel.taskAt receiver).mailbox.count_le
  have roomIff : (kernel.taskAt receiver).mailbox.isFull = false ↔ (kernel.mail receiver).length < mailboxCapacity := by
    rw [← Bool.not_eq_true, Mailbox.isFull_iff]
    exact (Nat.lt_iff_le_and_ne.trans (and_iff_right most)).symm
  rw [accepts, Bool.and_eq_true, Bool.not_eq_true', roomIff]
  rfl

/-- A broadcast puts its message behind the mail of every other task that accepts it. -/
theorem send_everyone_mail {result : Except MailError Unit} (formed : kernel.ready.WellFormed)
    (came : send .everyone message kernel = .ok result after) (isCaller : kernel.current = some sender)
    (receiver : Fin n) :
    after.mail receiver =
      if receiver ≠ sender ∧ kernel.accepts sender receiver = true then
        kernel.mail receiver ++ [⟨.ofIndex sender, message⟩]
      else kernel.mail receiver := by
  obtain ⟨caller, middle, known, sends, rfl⟩ := send_recorded came
  cases known.symm.trans isCaller
  change middle.mail receiver = _
  cases sends with
  | toAll _ deliveries =>
    by_cases own : receiver = sender
    · rw [if_neg (fun both => both.1 own), mail, deliveries.taskAt_of_notMem (.inr own), mail]
    · rw [(deliveries.posting formed (List.nodup_finRange n) (List.mem_finRange receiver) own).mail_eq]
      simp only [own, ne_eq, not_false_eq_true, true_and]
  | toOne one => exact absurd rfl one
  | toNobody one => exact absurd rfl one

end Kernel

variable {app : App} {config : KernelConfig} [Machine M S] {fresh kernel : Kernel width M S app.tasks.length}
  {history : List (Moment width M S app.tasks.length)} {sender : Fin app.tasks.length}

/-- At any time a task permits whom the application admits. -/
theorem Run.permits_iff {table : Vector TaskDesc app.tasks.length} (describes : app.Describes table)
    (isFresh : fresh.Fresh table) (run : Run fresh history kernel) (sender receiver : Fin app.tasks.length) :
    kernel.permits sender receiver = true ↔ app.Admits receiver sender := by
  -- no step of the kernel changes a description, so the table still says what it said at first
  rw [Kernel.permits, run.sameTable.desc_eq, isFresh.desc_eq]
  exact describes.contains_iff receiver sender

/-- In every state that a kernel on the table of an application reaches, a task that runs is refused by a task exactly
if that does not admit it, and its broadcast is delivered to exactly the other tasks that admit it and have room. -/
theorem Run.senders_enforced {table : Vector TaskDesc app.tasks.length} {machine : M}
    (resolved : app.resolve = .ok config) (tableEq : table.toList = config.descs)
    (made : Kernel.new table config.interruptId machine = .ok fresh) (run : Run fresh history kernel)
    (isCaller : kernel.current = some sender) (message : Message width) :
    (∀ receiver : Fin app.tasks.length, ∃ result after,
      Kernel.send (.ofIndex receiver) message kernel = .ok result after ∧
        (result = .error .denied ↔ ¬app.Admits receiver sender)) ∧
    ∃ result after, Kernel.send .everyone message kernel = .ok result after ∧
      ∀ receiver : Fin app.tasks.length, after.mail receiver =
        if receiver ≠ sender ∧ app.Admits receiver sender ∧ (kernel.mail receiver).length < mailboxCapacity then
          kernel.mail receiver ++ [⟨.ofIndex sender, message⟩]
        else kernel.mail receiver := by
  have isFresh := Kernel.new_ok made
  have describes := (App.resolve_ok resolved).describes tableEq
  have formed := (run.orderly (isFresh.orderly describes.firstEmpty_eq)).formed
  constructor
  · intro receiver
    have small : app.tasks.length ≤ 128 := Nat.le_trans kernel.fits (by decide)
    have one := (TaskId.everyone_ne_ofIndex small receiver).symm
    obtain ⟨result, after, came⟩ := Kernel.send_comes_back formed isCaller message
    refine ⟨result, after, came, ?_⟩
    rw [Kernel.send_result came isCaller one (TaskId.within_ofIndex small receiver), Kernel.verdict_eq_error_iff,
      ← run.permits_iff describes isFresh]
    simp
  · obtain ⟨result, after, came⟩ := Kernel.send_comes_back formed isCaller message
    refine ⟨result, after, came, fun receiver => ?_⟩
    simp only [Kernel.send_everyone_mail formed came isCaller, Kernel.accepts_iff, run.permits_iff describes isFresh]

/-- In the demo one of the equals may not post to the timer, and its broadcast reaches its equal only. -/
theorem Run.senders_enforced_demo : ∃ history kernel, Run Demo.fresh history kernel ∧ kernel.current = some 2 ∧
    (∃ after, Kernel.send (.ofIndex 1) 7 kernel = .ok (.error .denied) after) ∧
    ∃ result after, Kernel.send .everyone 7 kernel = .ok result after ∧ after.mail 1 = [] ∧
      after.mail 3 = [⟨.ofIndex 2, 7⟩] := by
  have computed : (replay? Demo.fresh [.call .init, .call .exit, .call .exit]).any (fun final =>
      decide (final.2.current = some 2 ∧ final.2.mail 1 = [] ∧ final.2.mail 3 = [])) = true := by
    decide +kernel
  obtain ⟨history, kernel, run, facts⟩ := Run.of_replay? computed
  obtain ⟨isCaller, timerEmpty, equalEmpty⟩ := of_decide_eq_true facts
  have stranger : ¬Demo.app.Admits (1 : Fin 4) (2 : Fin 4) := by
    unfold App.Admits
    decide
  have equal : Demo.app.Admits (3 : Fin 4) (2 : Fin 4) := by
    unfold App.Admits
    decide
  obtain ⟨direct, result, after, sent, mailEq⟩ :=
    senders_enforced Demo.resolve_app Demo.toList_table Demo.new_table run isCaller 7
  obtain ⟨refusal, later, refused, deniedIff⟩ := direct (1 : Fin 4)
  obtain rfl := deniedIff.mpr stranger
  refine ⟨history, kernel, run, isCaller, ⟨later, refused⟩, result, after, sent, ?_, ?_⟩
  · exact (mailEq (1 : Fin 4)).trans ((if_neg fun both => stranger both.2.1).trans timerEmpty)
  · have room : (kernel.mail 3).length < mailboxCapacity := by
      rw [equalEmpty]
      decide
    have apart : (3 : Fin 4) ≠ 2 := by decide
    have arrived : kernel.mail 3 ++ [⟨.ofIndex 2, 7⟩] = [⟨.ofIndex 2, 7⟩] := by rw [equalEmpty, List.nil_append]
    exact (mailEq (3 : Fin 4)).trans ((if_pos ⟨apart, equal, room⟩).trans arrived)

end CoopKernel
