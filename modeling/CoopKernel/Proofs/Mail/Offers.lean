import CoopKernel.Proofs.Mail.Traffic

/-! # Messages offered to tasks

`Traffic` says what a call means for the entries of a mailbox. Here the whole record of a task is
looked at: its description, saved registers, waiting mask and ring. A send offers its message to the
tasks that it addresses and leaves the records of all others (`send_taskAt`), and a call that does not
take a task out of the ready list can touch nothing of its record but the mailbox (`perform_touches`).
-/

namespace CoopKernel

variable {width : Width} {M S : Type} {n : Nat}

/-- A task that was offered a message: it is behind the mail of the task if the sender is permitted and there is room,
and otherwise nothing happened. -/
def Task.offered (task : Task width S) (sender : TaskId) (message : Message width) : Task width S :=
  if task.desc.permission.contains sender then
    match task.mailbox.push ⟨sender, message⟩ with
    | .ok box => { task with mailbox := box }
    | .error _ => task
  else task

/-- Whether the receiver of a send means a task: everyone is every task but the sender. -/
def TaskId.addresses (receiver : TaskId) (sender place : Fin n) : Bool :=
  if receiver = TaskId.everyone then place != sender else receiver.within n == some place

namespace Task

variable {task : Task width S} {sender : TaskId} {message : Message width}

theorem offered_of_forbidden (forbidden : task.desc.permission.contains sender = false) :
    task.offered sender message = task := by
  rw [offered, if_neg (Bool.eq_false_iff.mp forbidden)]

theorem offered_of_pushed {box : Mailbox width} (permitted : task.desc.permission.contains sender = true)
    (pushed : task.mailbox.push ⟨sender, message⟩ = .ok box) :
    task.offered sender message = { task with mailbox := box } := by
  rw [offered, if_pos permitted, pushed]

theorem offered_of_isFull (noRoom : task.mailbox.isFull = true) : task.offered sender message = task := by
  unfold offered
  split
  · cases pushed : task.mailbox.push ⟨sender, message⟩ with
    | ok box => cases noRoom.symm.trans (Mailbox.isFull_of_push pushed)
    | error => rfl
  · rfl

/-- An offer changes nothing, or puts one entry of a permitted sender behind the mail. -/
theorem offered_cases (task : Task width S) (sender : TaskId) (message : Message width) :
    task.offered sender message = task ∨ ∃ box, task.desc.permission.contains sender = true ∧
      task.mailbox.push ⟨sender, message⟩ = .ok box ∧ task.offered sender message = { task with mailbox := box } := by
  cases permitted : task.desc.permission.contains sender with
  | false => exact .inl (offered_of_forbidden permitted)
  | true =>
    cases pushed : task.mailbox.push ⟨sender, message⟩ with
    | ok box => exact .inr ⟨box, rfl, rfl, offered_of_pushed permitted pushed⟩
    | error error => exact .inl (offered_of_isFull (Mailbox.push_error pushed).1)

end Task

namespace Kernel

variable {kernel after : Kernel width M S n} {sender place : Fin n} {message : Message width}

theorem Delivery.taskAt_receiver {receiver : Fin n} {result : Except MailError Unit}
    (delivery : Delivery kernel sender receiver message result after) :
    after.taskAt receiver = (kernel.taskAt receiver).offered (.ofIndex sender) message := by
  cases delivery with
  | denied forbidden => exact (Task.offered_of_forbidden forbidden).symm
  | full _ noRoom => exact (Task.offered_of_isFull noRoom).symm
  | posted permitted pushed _ =>
    rw [Task.offered_of_pushed permitted pushed, taskAt_setMailbox, if_pos rfl]
  | woke permitted pushed _ _ =>
    rw [Task.offered_of_pushed permitted pushed]
    exact (taskAt_setMailbox ..).trans (if_pos rfl)

/-- Among deliveries to several tasks, only the one to a task itself matters to its record. -/
theorem Deliveries.taskAt_of_mem {places : List (Fin n)} {results : List (Except MailError Unit)}
    (deliveries : Deliveries sender message places results kernel after) (nodup : places.Nodup)
    (member : place ∈ places) (other : place ≠ sender) :
    after.taskAt place = (kernel.taskAt place).offered (.ofIndex sender) message := by
  induction deliveries with
  | done => exact absurd member List.not_mem_nil
  | own _ ih =>
    rcases List.mem_cons.mp member with same | later
    · exact absurd same other
    · exact ih nodup.of_cons later
  | @next receiver rest _ _ kernel middle after _ delivery deliveries ih =>
    by_cases here : receiver = place
    · subst here
      have absent : receiver ∉ rest := (List.nodup_cons.mp nodup).1
      rw [deliveries.taskAt_of_notMem (.inl absent), delivery.taskAt_receiver]
    · have later : place ∈ rest := (List.mem_cons.mp member).resolve_left (Ne.symm here)
      rw [ih nodup.of_cons later, delivery.taskAt_of_ne here]

/-- A send offers its message to the tasks that it addresses. -/
theorem send_taskAt {receiver : TaskId} {result : Except MailError Unit}
    (came : send receiver message kernel = .ok result after) :
    ∃ sender, kernel.current = some sender ∧ ∀ place, after.taskAt place =
      if receiver.addresses sender place then (kernel.taskAt place).offered (.ofIndex sender) message
      else kernel.taskAt place := by
  obtain ⟨sender, middle, isCaller, sends, afterEq⟩ := send_ok came
  refine ⟨sender, isCaller, fun place => ?_⟩
  have taskEq : after.taskAt place = middle.taskAt place := by
    rw [afterEq]
    rfl
  rw [taskEq]
  cases sends with
  | toAll all deliveries =>
    by_cases own : place = sender
    · rw [deliveries.taskAt_of_notMem (.inr own), TaskId.addresses, if_pos all, own, bne_self_eq_false]
      rfl
    · rw [deliveries.taskAt_of_mem (List.nodup_finRange n) (List.mem_finRange place) own, TaskId.addresses,
        if_pos all, bne_iff_ne.mpr own, if_pos rfl]
  | @toOne target _ _ one named delivery =>
    by_cases here : target = place
    · subst here
      rw [delivery.taskAt_receiver, TaskId.addresses, if_neg one, named, beq_self_eq_true, if_pos rfl]
    · rw [delivery.taskAt_of_ne here, if_neg]
      simp [TaskId.addresses, one, named, here]
  | toNobody one unnamed => simp [TaskId.addresses, one, unnamed]

/-- What a task answers to a sender: the ordinary rules for a message. -/
def verdict (kernel : Kernel width M S n) (sender receiver : Fin n) : Except MailError Unit :=
  if (kernel.desc receiver).permission.contains (.ofIndex sender) then
    if (kernel.taskAt receiver).mailbox.isFull then .error .fifoFull else .ok ()
  else .error .denied

theorem Delivery.result_eq {sender receiver : Fin n} {message : Message width} {result : Except MailError Unit}
    (delivery : Delivery kernel sender receiver message result after) : result = kernel.verdict sender receiver := by
  cases delivery with
  | denied forbidden => rw [verdict, forbidden, if_neg Bool.false_ne_true]
  | full permitted noRoom => rw [verdict, permitted, noRoom, if_pos rfl, if_pos rfl]
  | posted permitted pushed _ =>
    rw [verdict, permitted, Mailbox.isFull_of_push pushed, if_pos rfl, if_neg Bool.false_ne_true]
  | woke permitted pushed _ _ =>
    rw [verdict, permitted, Mailbox.isFull_of_push pushed, if_pos rfl, if_neg Bool.false_ne_true]

theorem send_result {receiver : TaskId} {message : Message width} {sender : Fin n} {result : Except MailError Unit}
    (came : send receiver message kernel = .ok result after) (isCaller : kernel.current = some sender)
    (one : receiver ≠ .everyone) (named : receiver.within n = some place) : result = kernel.verdict sender place := by
  obtain ⟨caller, middle, known, sends, -⟩ := send_ok came
  cases known.symm.trans isCaller
  cases sends with
  | toAll all => exact absurd all one
  | toOne _ found delivery =>
    cases found.symm.trans named
    exact delivery.result_eq
  | toNobody _ unnamed => cases unnamed.symm.trans named

/-- What a direct call does to the record of a task that it does not take out of the ready list. -/
inductive Touched (kernel : Kernel width M S n) (place : Fin n) (after : Kernel width M S n) : Call width → Prop
  | same {call : Call width} (taskEq : after.taskAt place = kernel.taskAt place) : Touched kernel place after call
  | posted {receiver : TaskId} {message : Message width} {sender : Fin n} {box : Mailbox width}
      (isCaller : kernel.current = some sender) (addressed : receiver.addresses sender place = true)
      (permitted : (kernel.desc place).permission.contains (.ofIndex sender) = true)
      (pushed : (kernel.taskAt place).mailbox.push ⟨.ofIndex sender, message⟩ = .ok box)
      (taskEq : after.taskAt place = { kernel.taskAt place with mailbox := box }) :
      Touched kernel place after (.send receiver message)
  | drew {box : Mailbox width} (isCaller : kernel.current = some place)
      (taskEq : after.taskAt place = { kernel.taskAt place with mailbox := box }) :
      Touched kernel place after .receive

theorem Touched.waiting_eq {call : Call width} (touched : Touched kernel place after call) :
    (after.taskAt place).waiting = (kernel.taskAt place).waiting := by
  cases touched with
  | same taskEq => rw [taskEq]
  | posted _ _ _ _ taskEq => rw [taskEq]
  | drew _ taskEq => rw [taskEq]

theorem send_touches {receiver : TaskId} {message : Message width} {result : Except MailError Unit}
    (came : send receiver message kernel = .ok result after) (place : Fin n) :
    Touched kernel place after (.send receiver message) := by
  obtain ⟨sender, isCaller, taskEq⟩ := send_taskAt came
  cases addressed : receiver.addresses sender place with
  | false => exact .same ((taskEq place).trans (if_neg (Bool.eq_false_iff.mp addressed)))
  | true =>
    have offered := (taskEq place).trans (if_pos addressed)
    rcases Task.offered_cases (kernel.taskAt place) (.ofIndex sender) message with
      same | ⟨box, permitted, pushed, posted⟩
    · exact .same (offered.trans same)
    · exact .posted isCaller addressed permitted pushed (offered.trans posted)

theorem receive_touches {result : Except MailError (Entry width)} (came : receive kernel = .ok result after)
    (place : Fin n) : Touched kernel place after .receive := by
  obtain ⟨caller, isCaller, ⟨entry, box, -, -, afterEq⟩ | ⟨error, -, -, afterEq⟩⟩ := receive_ok came
  · have taskEq : after.taskAt place = (kernel.setMailbox caller box).taskAt place := by
      rw [afterEq]
      rfl
    rw [taskAt_setMailbox] at taskEq
    split at taskEq
    · next own =>
      subst own
      exact .drew isCaller taskEq
    · exact .same taskEq
  · refine .same ?_
    rw [afterEq]
    rfl

section Calls

variable [Machine M S]

theorem wait_taskAt_of_ne {mask : TaskMask} {result : Except MailError Unit} {chosen caller : Fin n}
    (came : wait mask kernel = .ok (result, chosen) after) (isCaller : kernel.current = some caller)
    (other : caller ≠ place) : after.taskAt place = kernel.taskAt place := by
  obtain ⟨caller, middle, known, -, waits, scheduled⟩ := wait_ok came
  cases known.symm.trans isCaller
  rw [scheduled.taskAt_eq]
  cases waits with
  | yields _ _ => rfl
  | stays _ _ _ => exact (taskAt_setWaiting ..).trans (if_neg other)
  | blocks _ _ => exact (taskAt_setWaiting ..).trans (if_neg other)

/-- A call that does not take a task out of the ready list can touch nothing of its record but the mailbox. -/
theorem perform_touches {call : Call width} {result : Answer width n} (direct : call ≠ .trap)
    (came : perform call kernel = .ok result after) (untouched : kernel.takesOut call place = false) :
    Touched kernel place after call := by
  cases perform_ok came with
  | init => cases untouched
  | wait came =>
    obtain ⟨caller, _, isCaller, -⟩ := wait_ok came
    exact .same (wait_taskAt_of_ne came isCaller (by simpa [takesOut, isCaller] using untouched))
  | yield came =>
    obtain ⟨_, _, -, -, scheduled⟩ := yieldTask_ok came
    exact .same (scheduled.taskAt_eq place)
  | exit came =>
    obtain ⟨caller, isCaller, scheduled⟩ := exit_ok came
    have other : caller ≠ place := by simpa [takesOut, isCaller] using untouched
    refine .same ((scheduled.taskAt_eq place).trans ?_)
    exact (taskAt_setWaiting ..).trans (if_neg other)
  | schedule came => exact .same ((schedule_ok came).taskAt_eq place)
  | send came => exact send_touches came place
  | receive came => exact receive_touches came place
  | restart came =>
    rcases restart_ok came with ⟨-, -, rfl⟩ | ⟨target, started, chosen, named, began, scheduled, -⟩
    · exact .same rfl
    · have other : target ≠ place := by simpa [takesOut, named] using untouched
      exact .same ((scheduled.taskAt_eq place).trans (began.taskAt_of_ne other))
  | trap => exact absurd rfl direct

end Calls

end Kernel

end CoopKernel
