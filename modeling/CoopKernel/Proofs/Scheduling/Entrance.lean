import CoopKernel.Proofs.Mail.Offers
import CoopKernel.Proofs.Scheduling.Walk

/-! # How a task becomes ready

A task that was not ready before a call and is ready after it was started, or got mail that it waits
for, or is the interrupt task and an interrupt was pending (`perform_entrance`). There is no other way
in. A task that calls is ready already, so putting itself back does not count.
-/

namespace CoopKernel

open ReadyOrder

namespace Kernel

variable {width : Width} {M S : Type} {n : Nat} {kernel after : Kernel width M S n} {place : Fin n}

/-- A task that was taken out and put back is ready, and no other task comes in with it. -/
theorem notMem_of_requeued {caller : Fin n} {ready : ReadyList n} (formed : kernel.ready.WellFormed)
    (calling : caller ∈ kernel.ready.toList)
    (inserted : (kernel.ready.remove caller).insert kernel.rank caller = .ok ready)
    (absent : place ∉ kernel.ready.toList) : ready.WellFormed ∧ place ∉ ready.toList := by
  obtain ⟨formedAfter, listEq⟩ := (formed.remove caller).of_insert inserted
  refine ⟨formedAfter, ?_⟩
  rw [listEq, mem_enqueue, formed.toList_remove]
  rintro (rfl | old)
  · exact absent calling
  · exact absent (List.mem_of_mem_erase old)

theorem notMem_of_removed {caller : Fin n} (formed : kernel.ready.WellFormed) (absent : place ∉ kernel.ready.toList) :
    place ∉ (kernel.ready.remove caller).toList := by
  rw [formed.toList_remove]
  exact fun old => absent (List.mem_of_mem_erase old)

/-! ## Mail -/

/-- A delivery makes ready its receiver, and only for mail that was accepted and awaited. -/
theorem Delivery.entrance {sender receiver : Fin n} {message : Message width} {result : Except MailError Unit}
    (delivery : Delivery kernel sender receiver message result after) (formed : kernel.ready.WellFormed)
    (member : place ∈ after.ready.toList) :
    place ∈ kernel.ready.toList ∨ place = receiver ∧ result.isOk = true ∧ kernel.accepts sender receiver = true ∧
      (kernel.taskAt receiver).waiting.contains (.ofIndex sender) = true := by
  cases delivery with
  | denied => exact .inl member
  | full => exact .inl member
  | posted => exact .inl member
  | woke permitted pushed awaited inserted =>
    obtain ⟨-, listEq⟩ := formed.of_insert inserted
    rw [listEq] at member
    rcases mem_enqueue.mp member with rfl | old
    · exact .inr ⟨rfl, rfl, accepts_of_pushed permitted pushed, awaited⟩
    · exact .inl old

theorem Deliveries.entrance {sender : Fin n} {message : Message width} {places : List (Fin n)}
    {results : List (Except MailError Unit)} (deliveries : Deliveries sender message places results kernel after)
    (formed : kernel.ready.WellFormed) (nodup : places.Nodup) (member : place ∈ after.ready.toList) :
    place ∈ kernel.ready.toList ∨ place ∈ places ∧ place ≠ sender ∧ kernel.accepts sender place = true ∧
      (kernel.taskAt place).waiting.contains (.ofIndex sender) = true := by
  induction deliveries with
  | done => exact .inl member
  | own _ ih =>
    refine (ih formed nodup.of_cons member).imp_right fun ⟨later, rest⟩ => ?_
    exact ⟨List.mem_cons_of_mem _ later, rest⟩
  | @next receiver rest _ _ kernel middle after other delivery _ ih =>
    obtain ⟨formedMiddle, -⟩ := delivery.admits formed
    rcases ih formedMiddle nodup.of_cons member with early | ⟨later, apart, accepted, awaited⟩
    · refine (delivery.entrance formed early).imp_right ?_
      rintro ⟨rfl, -, accepted, awaited⟩
      exact ⟨List.mem_cons_self .., other, accepted, awaited⟩
    · -- a later receiver, whose record the first delivery left alone
      have elsewhere : receiver ≠ place := by
        rintro rfl
        exact (List.nodup_cons.mp nodup).1 later
      have same : middle.taskAt place = kernel.taskAt place := delivery.taskAt_of_ne elsewhere
      rw [accepts_congr same] at accepted
      rw [same] at awaited
      exact .inr ⟨List.mem_cons_of_mem _ later, apart, accepted, awaited⟩

theorem send_entrance {receiver : TaskId} {message : Message width} {result : Except MailError Unit}
    (formed : kernel.ready.WellFormed) (came : send receiver message kernel = .ok result after)
    (absent : place ∉ kernel.ready.toList) (member : place ∈ after.ready.toList) :
    ∃ entry, kernel.traffic place (.send receiver message) (.sent result) = .arrival entry ∧
      (kernel.taskAt place).waiting.contains entry.sender = true := by
  obtain ⟨sender, middle, isCaller, sends, afterEq⟩ := send_ok came
  have later : place ∈ middle.ready.toList := by rwa [afterEq] at member
  refine ⟨⟨.ofIndex sender, message⟩, ?_⟩
  simp only [traffic, isCaller]
  cases sends with
  | @toAll results _ all deliveries =>
    obtain ⟨-, apart, accepted, awaited⟩ :=
      (deliveries.entrance formed (List.nodup_finRange n) later).resolve_left absent
    have reached : kernel.reaches sender place receiver (results.foldl broadcastResult (.error .denied)) = true := by
      simp [reaches, all, apart, accepted]
    exact ⟨if_pos reached, awaited⟩
  | toOne one named delivery =>
    obtain ⟨rfl, isOk, -, awaited⟩ := (delivery.entrance formed later).resolve_left absent
    have reached : kernel.reaches sender place receiver result = true := by simp [reaches, one, named, isOk]
    exact ⟨if_pos reached, awaited⟩
  | toNobody => exact absurd later absent

/-! ## Calls -/

section Calls

variable [Machine M S]

/-- Why a task became ready in a call, by the traffic that the call means for it. -/
inductive Entrance (kernel : Kernel width M S n) (place : Fin n) (after : Kernel width M S n) : Traffic width → Prop
  | started : Entrance kernel place after .emptied
  | woken {entry : Entry width} (awaited : (kernel.taskAt place).waiting.contains entry.sender = true) :
      Entrance kernel place after (.arrival entry)
  | interrupted {traffic : Traffic width} (isInterruptTask : kernel.interruptTask = some place)
      (pending : Machine.interruptPending after.machine = true) : Entrance kernel place after traffic

/-- What a pass makes ready is the interrupt task, for a pending interrupt. -/
theorem Scheduled.entrance {before : Kernel width M S n} {chosen : Fin n} (scheduled : Scheduled before chosen after)
    (formed : before.ready.WellFormed) (member : place ∈ after.ready.toList) :
    place ∈ before.ready.toList ∨
      before.interruptTask = some place ∧ Machine.interruptPending after.machine = true := by
  have served := scheduled.served
  generalize after.ready = ready at served member
  cases served with
  | kept _ => exact .inl member
  | readied isInterruptTask pending _ inserted =>
    obtain ⟨-, listEq⟩ := formed.of_insert inserted
    rw [listEq] at member
    rcases mem_enqueue.mp member with rfl | old
    · exact .inr ⟨isInterruptTask, pending⟩
    · exact .inl old

/-- A scheduling call that leaves a task out of the list before its pass. -/
theorem Scheduled.interrupts {before : Kernel width M S n} {chosen : Fin n} {traffic : Traffic width}
    (scheduled : Scheduled before chosen after) (formed : before.ready.WellFormed)
    (interruptTaskEq : before.interruptTask = kernel.interruptTask) (absent : place ∉ before.ready.toList)
    (member : place ∈ after.ready.toList) : Entrance kernel place after traffic := by
  rcases scheduled.entrance formed member with early | ⟨isInterruptTask, pending⟩
  · exact absurd early absent
  · exact .interrupted (interruptTaskEq ▸ isInterruptTask) pending

theorem restart_entrance {id : TaskId} {result : Except MailError (Fin n)} (formed : kernel.ready.WellFormed)
    (came : restart id kernel = .ok result after) (absent : place ∉ kernel.ready.toList)
    (member : place ∈ after.ready.toList) :
    Entrance kernel place after (kernel.traffic place (.restart id) (.restarted result)) := by
  rcases restart_ok came with ⟨-, -, rfl⟩ | ⟨target, started, chosen, named, began, scheduled, -⟩
  · exact absurd member absent
  · by_cases here : target = place
    · simp only [traffic, named, here, ↓reduceIte]
      exact .started
    · have threads := began.threads_over formed
      refine scheduled.interrupts threads.wellFormed began.keeps.interruptTask_eq ?_ member
      rw [threads.toList_eq, mem_enqueue]
      rintro (same | old)
      · exact here same.symm
      · exact absent (List.mem_of_mem_erase old)

/-- A task becomes ready in a call that starts it, sends it mail it waits for, or passes with an interrupt pending. -/
theorem perform_entrance {call : Call width} {result : Answer width n} (formed : kernel.ready.WellFormed)
    (seated : ∀ caller, kernel.current = some caller → caller ∈ kernel.ready.toList)
    (direct : call ≠ .trap) (came : perform call kernel = .ok result after)
    (absent : place ∉ kernel.ready.toList) (member : place ∈ after.ready.toList) :
    Entrance kernel place after (kernel.traffic place call result) := by
  cases perform_ok came with
  | init came => exact .started
  | wait came =>
    obtain ⟨caller, middle, isCaller, -, waits, scheduled⟩ := wait_ok came
    have calling := seated caller isCaller
    cases waits with
    | yields _ inserted =>
      obtain ⟨formedMiddle, still⟩ := notMem_of_requeued formed calling inserted absent
      exact scheduled.interrupts formedMiddle rfl still member
    | stays _ _ inserted =>
      obtain ⟨formedMiddle, still⟩ := notMem_of_requeued formed calling inserted absent
      exact scheduled.interrupts formedMiddle rfl still member
    | blocks _ _ =>
      exact scheduled.interrupts (formed.remove caller) rfl (notMem_of_removed formed absent) member
  | yield came =>
    obtain ⟨caller, ready, isCaller, inserted, scheduled⟩ := yieldTask_ok came
    obtain ⟨formedMiddle, still⟩ := notMem_of_requeued formed (seated caller isCaller) inserted absent
    exact scheduled.interrupts formedMiddle rfl still member
  | exit came =>
    obtain ⟨caller, -, scheduled⟩ := exit_ok came
    exact scheduled.interrupts (formed.remove caller) rfl (notMem_of_removed formed absent) member
  | schedule came => exact (schedule_ok came).interrupts formed rfl absent member
  | send came =>
    obtain ⟨entry, trafficEq, awaited⟩ := send_entrance formed came absent member
    rw [trafficEq]
    exact .woken awaited
  | receive came =>
    obtain ⟨caller, -, ⟨_, _, -, -, afterEq⟩ | ⟨_, -, -, afterEq⟩⟩ := receive_ok came
    · rw [afterEq] at member
      exact absurd member absent
    · rw [afterEq] at member
      exact absurd member absent
  | restart came => exact restart_entrance formed came absent member
  | trap => exact absurd rfl direct

end Calls

end Kernel

end CoopKernel
