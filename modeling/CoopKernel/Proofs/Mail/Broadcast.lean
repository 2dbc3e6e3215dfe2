import CoopKernel.Proofs.Mail.Refusal

/-! # A broadcast as a row of sends

A broadcast goes through all tasks but the sender, and so can a sender that sends to one task after the
other. Both make the same deliveries. They record different events, but no delivery looks at the trace
(`Delivery.retrace`), so both leave the same kernel except for it, and the answer of the broadcast is
the best of the answers to the sends (`Run.broadcast_sends_each`).
-/

namespace CoopKernel

namespace Kernel

variable {width : Width} {M S : Type} {n : Nat} {kernel after : Kernel width M S n} {sender receiver : Fin n}
  {message : Message width} {result : Except MailError Unit} {results : List (Except MailError Unit)}

/-- Send a message to the tasks at some places, one after the other. -/
def sendEach (message : Message width) (places : List (Fin n)) : KernelM width M S n (List (Except MailError Unit)) :=
  places.mapM fun place : Fin n => send (.ofIndex place) message

/-- What was recorded before a delivery does not matter to it. -/
theorem Delivery.retrace (delivery : Delivery kernel sender receiver message result after) (trace : KernelTrace) :
    Delivery { kernel with trace := trace } sender receiver message result { after with trace := trace } := by
  cases delivery with
  | denied forbidden => exact .denied forbidden
  | full permitted noRoom => exact .full permitted noRoom
  | posted permitted pushed unawaited => exact .posted permitted pushed unawaited
  | woke permitted pushed awaited inserted => exact .woke permitted pushed awaited inserted

/-- A delivery is what `deliver` does. -/
theorem Delivery.deliver_eq (delivery : Delivery kernel sender receiver message result after) :
    deliver sender receiver message kernel = .ok result after := by
  refine bind_ok_iff.mpr ⟨kernel, kernel, rfl, ?_⟩
  have descEq : (kernel.taskAt receiver).desc = kernel.desc receiver := rfl
  dsimp only
  rw [descEq]
  cases delivery with
  | denied forbidden =>
    rw [if_neg (Bool.eq_false_iff.mp forbidden)]
    rfl
  | full permitted noRoom =>
    rw [if_pos permitted]
    cases pushed : (kernel.taskAt receiver).mailbox.push ⟨.ofIndex sender, message⟩ with
    | ok box => cases noRoom.symm.trans (Mailbox.isFull_of_push pushed)
    | error error =>
      obtain ⟨-, rfl⟩ := Mailbox.push_error pushed
      rfl
  | @posted box permitted pushed unawaited =>
    rw [if_pos permitted, pushed]
    refine bind_ok_iff.mpr ⟨⟨⟩, kernel.setMailbox receiver box, rfl, ?_⟩
    rw [if_neg (Bool.eq_false_iff.mp unawaited)]
    rfl
  | @woke box ready permitted pushed awaited inserted =>
    rw [if_pos permitted, pushed]
    refine bind_ok_iff.mpr ⟨⟨⟩, kernel.setMailbox receiver box, rfl, ?_⟩
    rw [if_pos awaited]
    rw [← rank_of_desc (desc_setMailbox receiver box)] at inserted
    exact bind_ok_iff.mpr ⟨(), _, makeReady_ok_iff.mpr ⟨ready, inserted, rfl⟩, rfl⟩

/-- A send to one task is a delivery, and then it is recorded. -/
theorem Delivery.send_eq (delivery : Delivery kernel sender receiver message result after)
    (isCaller : kernel.current = some sender) :
    send (.ofIndex receiver) message kernel =
      .ok result (after.record (.send (.ofIndex sender) (.ofIndex receiver) (statusOf result))) := by
  have small : n ≤ 128 := Nat.le_trans kernel.fits (by decide)
  refine bind_ok_iff.mpr ⟨sender, kernel, caller_ok_iff.mpr ⟨isCaller, rfl⟩, ?_⟩
  have one : TaskId.ofIndex receiver ≠ .everyone := (TaskId.everyone_ne_ofIndex small receiver).symm
  rw [if_neg one, TaskId.within_ofIndex small]
  exact bind_ok_iff.mpr ⟨result, after, delivery.deliver_eq, rfl⟩

/-- Deliveries to the places of a list are sends to them, whatever was recorded before. -/
theorem Deliveries.sendEach_eq {places : List (Fin n)}
    (deliveries : Deliveries sender message places results kernel after) (isCaller : kernel.current = some sender)
    (trace : KernelTrace) :
    ∃ last, sendEach message (places.filter (· ≠ sender)) { kernel with trace := trace } =
      .ok results { after with trace := last } := by
  -- every send leaves a trace of its own behind, so the trace in front of the rest is any
  induction deliveries generalizing trace with
  | done => exact ⟨trace, rfl⟩
  | own _ ih =>
    rw [List.filter_cons_of_neg (by simp)]
    exact ih isCaller trace
  | @next receiver rest result results kernel middle after other delivery _ ih =>
    have isCallerStill : middle.current = some sender := delivery.keeps.current_eq.trans isCaller
    have sent := (delivery.retrace trace).send_eq isCaller
    obtain ⟨last, sentRest⟩ := ih isCallerStill
      (trace.record (.send (.ofIndex sender) (.ofIndex receiver) (statusOf result)))
    refine ⟨last, ?_⟩
    rw [List.filter_cons_of_pos (by simpa using other), sendEach, List.mapM_cons]
    exact bind_ok_iff.mpr ⟨result, _, sent, bind_ok_iff.mpr ⟨results, _, sentRest, rfl⟩⟩

end Kernel

namespace Run

variable {width : Width} {M S : Type} {n : Nat} [Machine M S] {fresh kernel : Kernel width M S n}
  {history : List (Moment width M S n)} {caller : Fin n}

/-- In every state that a kernel on a table without empty sections reaches, a broadcast of the task that runs leaves
what its sends to all others, one after the other, would leave, the trace aside, and it is answered with the best of
their answers. So every other task gets one copy or none, and the sender gets none. -/
theorem broadcast_sends_each {table : Vector TaskDesc n} {interruptTask : TaskId} {machine : M}
    (sections : ∀ place, (table.get place).firstEmpty = none)
    (made : Kernel.new table interruptTask machine = .ok fresh) (run : Run fresh history kernel)
    (isCaller : kernel.current = some caller) (message : Message width) :
    ∃ results each all,
      Kernel.sendEach message ((List.finRange n).filter (· ≠ caller)) kernel = .ok results each ∧
      Kernel.send .everyone message kernel =
        .ok (if .ok () ∈ results then .ok () else if .error .fifoFull ∈ results then .error .fifoFull
          else .error .denied) all ∧
      all = { each with trace := all.trace } ∧
      all.mail caller = kernel.mail caller ∧
      ∀ place, place ≠ caller → all.mail place =
        if kernel.accepts caller place then kernel.mail place ++ [⟨.ofIndex caller, message⟩]
        else kernel.mail place := by
  have formed := (run.orderly ((Kernel.new_ok made).orderly sections)).formed
  obtain ⟨result, all, came⟩ : ∃ result all, Kernel.send .everyone message kernel = .ok result all :=
    Kernel.send_comes_back formed isCaller message
  obtain ⟨sender, middle, known, sends, allEq⟩ := Kernel.send_recorded came
  cases known.symm.trans isCaller
  cases sends with
  | @toAll results middle _ deliveries =>
    obtain ⟨last, sent⟩ := deliveries.sendEach_eq isCaller kernel.trace
    have taskEq (place : Fin n) : all.taskAt place = middle.taskAt place := by
      rw [allEq]
      rfl
    refine ⟨results, _, all, sent, ?_, by rw [allEq]; rfl, ?_, fun place other => ?_⟩
    · rw [came, Kernel.foldl_broadcastResult]
      simp
    · rw [Kernel.mail, taskEq, deliveries.taskAt_of_notMem (.inr rfl), Kernel.mail]
    · rw [Kernel.mail, taskEq]
      exact (deliveries.posting formed (List.nodup_finRange n) (List.mem_finRange place) other).mail_eq
  | toOne one => exact absurd rfl one
  | toNobody one => exact absurd rfl one

/-- In the demo the interrupt task comes back while the timer waits for it and the mailbox of an application is full. Its
broadcast wakes the timer and passes over the full mailbox. -/
theorem broadcast_sends_each_demo : ∃ history kernel each all, Run Demo.fresh history kernel ∧
    kernel.current = some 0 ∧ kernel.ready.toList = [0, 3, 2] ∧
    Kernel.sendEach 7 [1, 2, 3] kernel = .ok [.ok (), .ok (), .error .fifoFull] each ∧
    Kernel.send .everyone 7 kernel = .ok (.ok ()) all ∧ all = { each with trace := all.trace } ∧
    all.ready.toList = [0, 1, 3, 2] := by
  have computed : (replay? Demo.fresh [.call .init, .call .exit, .call (.wait ⟨1⟩), .call (.send (.ofIndex 3) 1),
      .call (.send (.ofIndex 3) 2), .call (.send (.ofIndex 3) 3), .call (.send (.ofIndex 3) 4),
      .outside HostMachine.raise, .call .yield]).any (fun final =>
        decide (final.2.current = some 0 ∧ final.2.ready.toList = [0, 3, 2]) &&
        Kernel.succeedsWith (Kernel.sendEach 7 [1, 2, 3]) final.2 fun results each =>
          decide (results = [.ok (), .ok (), .error .fifoFull] ∧ each.ready.toList = [0, 1, 3, 2])) = true := by
    decide +kernel
  obtain ⟨history, kernel, run, facts⟩ := Run.of_replay? computed
  rw [Bool.and_eq_true, decide_eq_true_eq] at facts
  obtain ⟨⟨isCaller, listEq⟩, facts⟩ := facts
  obtain ⟨results, each, sent, facts⟩ := Kernel.succeedsWith_iff.mp facts
  obtain ⟨rfl, listAfterEq⟩ := of_decide_eq_true facts
  obtain ⟨_, _, all, sentAll, came, allEq, -⟩ := broadcast_sends_each Demo.table_sections Demo.new_table run isCaller 7
  have placesEq : (List.finRange 4).filter (· ≠ 0) = [1, 2, 3] := by decide
  rw [placesEq] at sentAll
  cases sentAll.symm.trans sent
  refine ⟨history, kernel, each, all, run, isCaller, listEq, sent, came, allEq, ?_⟩
  rw [allEq]
  exact listAfterEq

end Run

end CoopKernel
