import CoopKernel.Proofs.Kernel.Movement

/-! # What calls do to the mail of a task

For one task a direct call means at most one thing: its mailbox is emptied, an entry arrives behind the
others, or an entry departs. `traffic` reads this off the call and its answer, and `perform_mails` says
that mailbox, waiting mask and ready list go along with it. A broadcast is nothing special here, since
it means for each task what a send to that task alone would.
-/

namespace CoopKernel

/-- What a call means for the mail of one task. -/
inductive Traffic (width : Width) where
  | quiet
  | emptied
  | arrival (entry : Entry width)
  | departure (entry : Entry width)

namespace Kernel

variable {width : Width} {M S : Type} {n : Nat} {kernel after : Kernel width M S n}

/-- What is in the mailbox of a task, oldest first. -/
def mail (kernel : Kernel width M S n) (place : Fin n) : List (Entry width) := (kernel.taskAt place).mailbox.entries

/-- Whether a task would take a message of a sender: the sender is permitted, and there is room. -/
def accepts (kernel : Kernel width M S n) (sender receiver : Fin n) : Bool :=
  (kernel.desc receiver).permission.contains (.ofIndex sender) && !(kernel.taskAt receiver).mailbox.isFull

/-- Whether a send of a task put its message into the mailbox of another. -/
def reaches (kernel : Kernel width M S n) (sender place : Fin n) (receiver : TaskId)
    (outcome : Except MailError Unit) : Bool :=
  if receiver = TaskId.everyone then place != sender && kernel.accepts sender place
  else receiver.within n == some place && outcome.isOk

/-- What a direct call with its answer means for the mail of a task. -/
def traffic (kernel : Kernel width M S n) (place : Fin n) : Call width → Answer width n → Traffic width
  | .init, _ => .emptied
  | .restart id, _ => if id.within n = some place then .emptied else .quiet
  | .send receiver message, .sent outcome =>
      match kernel.current with
      | some sender =>
          if kernel.reaches sender place receiver outcome then .arrival ⟨.ofIndex sender, message⟩ else .quiet
      | none => .quiet
  | .receive, .received (.ok entry) => if kernel.current = some place then .departure entry else .quiet
  | _, _ => .quiet

/-- A task waits for whom it waited, and has not left the ready list. -/
structure Attends (kernel : Kernel width M S n) (place : Fin n) (after : Kernel width M S n) : Prop where
  waiting_eq : (after.taskAt place).waiting = (kernel.taskAt place).waiting
  stays : place ∈ kernel.ready.toList → place ∈ after.ready.toList

/-- What a direct call leaves of the mail of a task, by the traffic that it means. -/
inductive Mailed (kernel : Kernel width M S n) (place : Fin n) (after : Kernel width M S n) : Traffic width → Prop
  | emptied (mailEq : after.mail place = []) : Mailed kernel place after .emptied
  | arrival {entry : Entry width} (attends : Attends kernel place after)
      (mailEq : after.mail place = kernel.mail place ++ [entry])
      (woken : (kernel.taskAt place).waiting.contains entry.sender = true → place ∈ after.ready.toList) :
      Mailed kernel place after (.arrival entry)
  | departure {entry : Entry width} {position : Nat} (attends : Attends kernel place after)
      (found : (kernel.mail place).findIdx? (fun entry => (kernel.taskAt place).waiting.contains entry.sender) =
        some position)
      (entryEq : (kernel.mail place)[position]? = some entry)
      (mailEq : after.mail place = (kernel.mail place).eraseIdx position) :
      Mailed kernel place after (.departure entry)
  | quiet (attends : Attends kernel place after) (mailEq : after.mail place = kernel.mail place) :
      Mailed kernel place after .quiet
  | ready (mailEq : after.mail place = kernel.mail place) (member : place ∈ after.ready.toList) :
      Mailed kernel place after .quiet
  | rests (mailEq : after.mail place = kernel.mail place)
      (unwanted : ∀ entry ∈ after.mail place, (after.taskAt place).waiting.contains entry.sender = false) :
      Mailed kernel place after .quiet

theorem taskAt_setWaiting (place other : Fin n) (mask : TaskMask) :
    (kernel.setWaiting place mask).taskAt other =
      if place = other then { kernel.taskAt place with waiting := mask } else kernel.taskAt other :=
  taskAt_changeTask ..

theorem taskAt_setMailbox (place other : Fin n) (box : Mailbox width) :
    (kernel.setMailbox place box).taskAt other =
      if place = other then { kernel.taskAt place with mailbox := box } else kernel.taskAt other :=
  taskAt_changeTask ..

@[simp] theorem mail_setWaiting (place other : Fin n) (mask : TaskMask) :
    (kernel.setWaiting place mask).mail other = kernel.mail other := by
  rw [mail, taskAt_setWaiting, mail]
  split
  · next same => rw [same]
  · rfl

theorem mail_setMailbox (place : Fin n) (box : Mailbox width) :
    (kernel.setMailbox place box).mail place = box.entries := by
  rw [mail, taskAt_setMailbox, if_pos rfl]

theorem hasMailFrom_eq (place : Fin n) (mask : TaskMask) :
    kernel.hasMailFrom place mask = (kernel.mail place).any fun entry => mask.contains entry.sender :=
  Mailbox.intersects_senders ..

/-- A task that a call does not take out of the ready list attends to its mail as before. -/
theorem Movement.attends {call : Call width} {result : Answer width n}
    (movement : Movement kernel call result after)
    {place : Fin n} (untouched : kernel.takesOut call place = false)
    (waitingEq : (after.taskAt place).waiting = (kernel.taskAt place).waiting) : Attends kernel place after where
  waiting_eq := waitingEq
  stays member := movement.admits.mem_of_mem (List.mem_filter.mpr ⟨member, by rw [untouched, Bool.not_false]⟩)

/-- A task that is not touched has no traffic. -/
theorem Movement.untouched {call : Call width} {result : Answer width n}
    (movement : Movement kernel call result after)
    {place : Fin n} (untouched : kernel.takesOut call place = false)
    (same : after.taskAt place = kernel.taskAt place) :
    Mailed kernel place after .quiet := by
  refine .quiet (movement.attends untouched ?_) ?_
  · rw [same]
  · rw [mail, same, mail]

/-! ## Scheduling calls -/

section Passes

variable [Machine M S] {place : Fin n}

theorem Scheduled.taskAt_eq {before : Kernel width M S n} {chosen : Fin n}
    (scheduled : Scheduled before chosen after)
    (place : Fin n) : after.taskAt place = before.taskAt place := by
  rw [taskAt, scheduled.tasks_eq, taskAt]

theorem schedule_mails {chosen : Fin n} (movement : Movement kernel .schedule (.next chosen) after)
    (came : schedule kernel = .ok chosen after) : Mailed kernel place after .quiet :=
  movement.untouched rfl ((schedule_ok came).taskAt_eq place)

/-- A place that was put back before a pass is ready after it. -/
theorem Scheduled.mem_of_requeued {middle : Kernel width M S n} {chosen : Fin n} {list : ReadyList n}
    (scheduled : Scheduled middle chosen after) (formed : list.WellFormed)
    (inserted : list.insert kernel.rank place = .ok middle.ready) : place ∈ after.ready.toList := by
  obtain ⟨formedMiddle, listEq⟩ := formed.of_insert inserted
  have member : place ∈ middle.ready.toList := by
    rw [listEq]
    exact ReadyOrder.mem_enqueue.mpr (.inl rfl)
  exact (scheduled.admits formedMiddle).2.mem_of_mem member

theorem yieldTask_mails {chosen : Fin n} (formed : kernel.ready.WellFormed)
    (movement : Movement kernel .yield (.next chosen) after) (came : yieldTask kernel = .ok chosen after) :
    Mailed kernel place after .quiet := by
  obtain ⟨caller, ready, isCaller, inserted, scheduled⟩ := yieldTask_ok came
  have same : after.taskAt place = kernel.taskAt place := scheduled.taskAt_eq place
  by_cases own : caller = place
  · subst own
    refine .ready ?_ (scheduled.mem_of_requeued (formed.remove caller) inserted)
    rw [mail, same, mail]
  · exact movement.untouched (by simp [takesOut, isCaller, own]) same

theorem exit_mails {chosen : Fin n} (movement : Movement kernel .exit (.next chosen) after)
    (came : exit kernel = .ok chosen after) : Mailed kernel place after .quiet := by
  obtain ⟨caller, isCaller, scheduled⟩ := exit_ok came
  have taskEq := scheduled.taskAt_eq place
  by_cases own : caller = place
  · subst own
    refine .rests ?_ fun entry _ => ?_
    · rw [mail, taskEq]
      exact mail_setWaiting ..
    · rw [taskEq, taskAt_setWaiting, if_pos rfl]
      exact TaskMask.contains_empty _
  · refine movement.untouched (by simp [takesOut, isCaller, own]) ?_
    rw [taskEq, taskAt_setWaiting, if_neg own]
    rfl

theorem wait_mails {mask : TaskMask} {result : Except MailError Unit} {chosen : Fin n}
    (formed : kernel.ready.WellFormed)
    (movement : Movement kernel (.wait mask) (.waited result chosen) after)
    (came : wait mask kernel = .ok (result, chosen) after) : Mailed kernel place after .quiet := by
  obtain ⟨caller, middle, isCaller, -, waits, scheduled⟩ := wait_ok came
  have taskEq := scheduled.taskAt_eq place
  by_cases own : caller = place
  · subst own
    cases waits with
    | yields _ inserted =>
      refine .ready ?_ (scheduled.mem_of_requeued (formed.remove caller) inserted)
      rw [mail, taskEq]
      rfl
    | stays _ _ inserted =>
      refine .ready ?_ (scheduled.mem_of_requeued (formed.remove caller) inserted)
      rw [mail, taskEq]
      exact mail_setWaiting ..
    | blocks _ noMail =>
      have mailEq : after.mail caller = kernel.mail caller := by
        rw [mail, taskEq]
        exact mail_setWaiting ..
      refine .rests mailEq fun entry inside => ?_
      rw [mailEq] at inside
      rw [hasMailFrom_eq, List.any_eq_false] at noMail
      rw [taskEq, taskAt_setWaiting, if_pos rfl]
      exact Bool.eq_false_iff.mpr (noMail entry inside)
  · have untouched : kernel.takesOut (.wait mask) place = false := by simp [takesOut, isCaller, own]
    refine movement.untouched untouched ?_
    rw [taskEq]
    cases waits with
    | yields _ _ => rfl
    | stays _ _ _ => exact (taskAt_setWaiting ..).trans (if_neg own)
    | blocks _ _ => exact (taskAt_setWaiting ..).trans (if_neg own)

end Passes

/-! ## Mail -/

/-- What a delivery leaves of its receiver, in terms of mail. -/
structure Posting (kernel : Kernel width M S n) (sender place : Fin n) (message : Message width)
    (after : Kernel width M S n) : Prop where
  waiting_eq : (after.taskAt place).waiting = (kernel.taskAt place).waiting
  mail_eq : after.mail place =
    if kernel.accepts sender place then kernel.mail place ++ [⟨.ofIndex sender, message⟩] else kernel.mail place
  woken : kernel.accepts sender place = true → (kernel.taskAt place).waiting.contains (.ofIndex sender) = true →
    place ∈ after.ready.toList

theorem Posting.of_refused {sender place : Fin n} {message : Message width}
    (refused : kernel.accepts sender place = false) :
    Posting kernel sender place message kernel where
  waiting_eq := rfl
  mail_eq := by rw [if_neg (Bool.eq_false_iff.mp refused)]
  woken accepted := nomatch refused.symm.trans accepted

/-- A mailbox that took a message has it at its end, whatever becomes of the ready list meanwhile. -/
theorem Posting.of_pushed {sender place : Fin n} {message : Message width} {box : Mailbox width}
    {ready : ReadyList n}
    (accepted : kernel.accepts sender place = true)
    (pushed : (kernel.taskAt place).mailbox.push ⟨.ofIndex sender, message⟩ = .ok box)
    (woken : (kernel.taskAt place).waiting.contains (.ofIndex sender) = true → place ∈ ready.toList) :
    Posting kernel sender place message { kernel.setMailbox place box with ready := ready } where
  waiting_eq := by
    change ((kernel.setMailbox place box).taskAt place).waiting = _
    rw [taskAt_setMailbox, if_pos rfl]
  mail_eq := by
    change (kernel.setMailbox place box).mail place = _
    rw [mail_setMailbox, if_pos accepted, Mailbox.entries_push pushed]
    rfl
  woken _ := woken

theorem accepts_of_pushed {sender place : Fin n} {entry : Entry width} {box : Mailbox width}
    (permitted : (kernel.desc place).permission.contains (.ofIndex sender) = true)
    (pushed : (kernel.taskAt place).mailbox.push entry = .ok box) : kernel.accepts sender place = true := by
  rw [accepts, permitted, Mailbox.isFull_of_push pushed]
  rfl

theorem Delivery.posting {sender receiver : Fin n} {message : Message width} {result : Except MailError Unit}
    (delivery : Delivery kernel sender receiver message result after) (formed : kernel.ready.WellFormed) :
    Posting kernel sender receiver message after ∧ result.isOk = kernel.accepts sender receiver := by
  cases delivery with
  | denied forbidden =>
    have refused : kernel.accepts sender receiver = false := by rw [accepts, forbidden, Bool.false_and]
    exact ⟨.of_refused refused, refused.symm⟩
  | full permitted noRoom =>
    have refused : kernel.accepts sender receiver = false := by rw [accepts, noRoom, Bool.not_true, Bool.and_false]
    exact ⟨.of_refused refused, refused.symm⟩
  | posted permitted pushed unawaited =>
    have accepted := accepts_of_pushed permitted pushed
    exact ⟨.of_pushed accepted pushed fun awaited => (nomatch unawaited.symm.trans awaited), accepted.symm⟩
  | woke permitted pushed awaited inserted =>
    have accepted := accepts_of_pushed permitted pushed
    obtain ⟨-, listEq⟩ := formed.of_insert inserted
    refine ⟨.of_pushed accepted pushed fun _ => ?_, accepted.symm⟩
    rw [listEq]
    exact ReadyOrder.mem_enqueue.mpr (.inl rfl)

theorem Delivery.taskAt_of_ne {sender receiver place : Fin n} {message : Message width}
    {result : Except MailError Unit}
    (delivery : Delivery kernel sender receiver message result after) (other : receiver ≠ place) :
    after.taskAt place = kernel.taskAt place := by
  cases delivery with
  | denied => rfl
  | full => rfl
  | posted => exact (taskAt_setMailbox ..).trans (if_neg other)
  | woke => exact (taskAt_setMailbox ..).trans (if_neg other)

/-- Deliveries do nothing to tasks that are not among the receivers. -/
theorem Deliveries.taskAt_of_notMem {sender place : Fin n} {message : Message width} {places : List (Fin n)}
    {results : List (Except MailError Unit)} (deliveries : Deliveries sender message places results kernel after)
    (apart : place ∉ places ∨ place = sender) : after.taskAt place = kernel.taskAt place := by
  induction deliveries with
  | done => rfl
  | own _ ih => exact ih (apart.imp_left fun absent inside => absent (List.mem_cons_of_mem _ inside))
  | @next receiver rest _ _ _ _ _ other delivery _ ih =>
    have elsewhere : receiver ≠ place := by
      rcases apart with absent | rfl
      · rintro rfl
        exact absent (List.mem_cons_self ..)
      · exact other
    rw [ih (apart.imp_left fun absent inside => absent (List.mem_cons_of_mem _ inside)),
      delivery.taskAt_of_ne elsewhere]

theorem accepts_congr {before : Kernel width M S n} {sender place : Fin n}
    (same : before.taskAt place = kernel.taskAt place) :
    before.accepts sender place = kernel.accepts sender place := by
  rw [accepts, desc, same, accepts, desc]

/-- A broadcast leaves of each task but the sender what a delivery to that task alone leaves. -/
theorem Deliveries.posting {sender place : Fin n} {message : Message width} {places : List (Fin n)}
    {results : List (Except MailError Unit)} (deliveries : Deliveries sender message places results kernel after)
    (formed : kernel.ready.WellFormed) (nodup : places.Nodup) (member : place ∈ places) (other : place ≠ sender) :
    Posting kernel sender place message after := by
  induction deliveries with
  | done => exact absurd member List.not_mem_nil
  | own _ ih =>
    rcases List.mem_cons.mp member with same | later
    · exact absurd same other
    · exact ih formed nodup.of_cons later
  | @next receiver rest _ _ kernel middle after _ delivery deliveries ih =>
    obtain ⟨formedMiddle, -⟩ := delivery.admits formed
    by_cases here : receiver = place
    · -- the delivery to this task; the later ones pass it by, and it stays in the list
      subst here
      have absent : receiver ∉ rest := (List.nodup_cons.mp nodup).1
      have same : after.taskAt receiver = middle.taskAt receiver := deliveries.taskAt_of_notMem (.inl absent)
      obtain ⟨⟨waitingEq, mailEq, woken⟩, -⟩ := delivery.posting formed
      refine ⟨by rw [same, waitingEq], by rw [mail, same]; exact mailEq, fun accepted awaited => ?_⟩
      obtain ⟨-, admits⟩ := deliveries.admits formedMiddle
      exact admits.mem_of_mem (woken accepted awaited)
    · have same : middle.taskAt place = kernel.taskAt place := delivery.taskAt_of_ne here
      have later : place ∈ rest := (List.mem_cons.mp member).resolve_left (Ne.symm here)
      obtain ⟨waitingEq, mailEq, woken⟩ := ih formedMiddle nodup.of_cons later
      rw [accepts_congr same] at mailEq woken
      rw [same] at waitingEq woken
      rw [mail, mail, same] at mailEq
      exact ⟨waitingEq, mailEq, woken⟩

/-- Only the receiver and the ready list matter to a posting. -/
theorem Posting.congr {middle : Kernel width M S n} {sender place : Fin n} {message : Message width}
    (posting : Posting kernel sender place message middle) (taskEq : after.taskAt place = middle.taskAt place)
    (readyEq : after.ready = middle.ready) : Posting kernel sender place message after where
  waiting_eq := by rw [taskEq, posting.waiting_eq]
  mail_eq := by
    rw [mail, taskEq]
    exact posting.mail_eq
  woken := by
    rw [readyEq]
    exact posting.woken

/-- A task that a send takes its message to, or not, has the traffic of the send. -/
theorem Posting.mailed {sender place : Fin n} {receiver : TaskId} {message : Message width}
    {outcome : Except MailError Unit}
    (posting : Posting kernel sender place message after) (isCaller : kernel.current = some sender)
    (reachesEq : kernel.reaches sender place receiver outcome = kernel.accepts sender place)
    (attends : Attends kernel place after) :
    Mailed kernel place after (kernel.traffic place (.send receiver message) (.sent outcome)) := by
  have mailEq := posting.mail_eq
  simp only [traffic, isCaller, reachesEq]
  split
  · next accepted =>
    rw [if_pos accepted] at mailEq
    exact .arrival attends mailEq (posting.woken accepted)
  · next refused =>
    rw [if_neg refused] at mailEq
    exact .quiet attends mailEq

theorem Movement.unreached {sender place : Fin n} {receiver : TaskId} {message : Message width}
    {outcome : Except MailError Unit} (movement : Movement kernel (.send receiver message) (.sent outcome) after)
    (isCaller : kernel.current = some sender) (apart : kernel.reaches sender place receiver outcome = false)
    (same : after.taskAt place = kernel.taskAt place) :
    Mailed kernel place after (kernel.traffic place (.send receiver message) (.sent outcome)) := by
  simp only [traffic, isCaller, apart, Bool.false_eq_true, ↓reduceIte]
  exact movement.untouched rfl same

theorem send_mails {receiver : TaskId} {message : Message width} {result : Except MailError Unit} {place : Fin n}
    (formed : kernel.ready.WellFormed) (movement : Movement kernel (.send receiver message) (.sent result) after)
    (came : send receiver message kernel = .ok result after) :
    Mailed kernel place after (kernel.traffic place (.send receiver message) (.sent result)) := by
  obtain ⟨sender, middle, isCaller, sends, afterEq⟩ := send_ok came
  have taskEq : after.taskAt place = middle.taskAt place := by
    rw [afterEq]
    rfl
  have readyEq : after.ready = middle.ready := by rw [afterEq]
  cases sends with
  | toAll all deliveries =>
    by_cases own : place = sender
    · refine movement.unreached isCaller (by simp [reaches, all, own]) ?_
      rw [taskEq, deliveries.taskAt_of_notMem (.inr own)]
    · have posting := deliveries.posting formed (List.nodup_finRange n) (List.mem_finRange place) own
      have posted := posting.congr taskEq readyEq
      exact posted.mailed isCaller (by simp [reaches, all, own]) (movement.attends rfl posted.waiting_eq)
  | @toOne target _ _ one named delivery =>
    by_cases here : target = place
    · subst here
      obtain ⟨posting, resultEq⟩ := delivery.posting formed
      have posted := posting.congr taskEq readyEq
      exact posted.mailed isCaller (by simp [reaches, one, named, resultEq])
        (movement.attends rfl posted.waiting_eq)
    · refine movement.unreached isCaller (by simp [reaches, one, named, here]) ?_
      rw [taskEq, delivery.taskAt_of_ne here]
  | toNobody one unnamed => exact movement.unreached isCaller (by simp [reaches, one, unnamed]) taskEq

theorem receive_mails {result : Except MailError (Entry width)} {place : Fin n}
    (movement : Movement kernel .receive (.received result) after) (came : receive kernel = .ok result after) :
    Mailed kernel place after (kernel.traffic place .receive (.received result)) := by
  obtain ⟨caller, isCaller, ⟨entry, box, taken, rfl, afterEq⟩ | ⟨error, -, rfl, afterEq⟩⟩ := receive_ok came
  · by_cases own : caller = place
    · subst own
      have taskEq : after.taskAt caller = { kernel.taskAt caller with mailbox := box } := by
        rw [afterEq]
        exact (taskAt_setMailbox ..).trans (if_pos rfl)
      obtain ⟨position, found, entryEq, entriesEq⟩ := Mailbox.entries_take taken
      simp only [traffic, isCaller, ↓reduceIte]
      exact .departure (movement.attends rfl (by rw [taskEq])) found entryEq (by rw [mail, taskEq]; exact entriesEq)
    · have taskEq : after.taskAt place = kernel.taskAt place := by
        rw [afterEq]
        exact (taskAt_setMailbox ..).trans (if_neg own)
      simp only [traffic, isCaller, Option.some.injEq, own, ↓reduceIte]
      exact movement.untouched rfl taskEq
  · refine movement.untouched rfl ?_
    rw [afterEq]
    rfl

/-! ## Starting tasks -/

section Starts

variable [Machine M S] {place : Fin n}

theorem Started.mail_eq (started : Started kernel place after) : after.mail place = [] := by
  obtain ⟨_, -, taskEq⟩ := started.taskAt_self
  rw [mail, taskEq]
  rfl

/-- Starting tasks empties the mailbox of each and fills none. -/
theorem Starts.mail_eq {places : List (Fin n)} (starts : Starts places kernel after)
    (covered : place ∈ places ∨ kernel.mail place = []) : after.mail place = [] := by
  induction starts with
  | done => exact covered.resolve_left List.not_mem_nil
  | @next first rest _ _ _ _ started _ ih =>
    refine ih ?_
    by_cases here : first = place
    · subst here
      exact .inr started.mail_eq
    · rcases covered with member | empty
      · exact .inl ((List.mem_cons.mp member).resolve_left (Ne.symm here))
      · rw [mail, started.taskAt_of_ne here]
        exact .inr empty

theorem init_mails {result : Except ConfigError (Fin n)} (bootable : kernel.Bootable)
    (came : init kernel = .ok result after) : Mailed kernel place after .emptied := by
  have cleared : Bootable { kernel with ready := kernel.ready.clear, current := none } := bootable
  rcases init_ok came with ⟨error, began, -⟩ | ⟨started, scheduled, chosen, began, passed, -, -, afterEq⟩
  · exact .emptied ((startTasks_starts cleared began).2.mail_eq (.inl (List.mem_finRange place)))
  · have taskEq : after.taskAt place = started.taskAt place := by
      rw [afterEq]
      exact passed.taskAt_eq place
    refine .emptied ?_
    rw [mail, taskEq]
    exact (startTasks_starts cleared began).2.mail_eq (.inl (List.mem_finRange place))

theorem restart_mails {id : TaskId} {result : Except MailError (Fin n)}
    (movement : Movement kernel (.restart id) (.restarted result) after)
    (came : restart id kernel = .ok result after) :
    Mailed kernel place after (kernel.traffic place (.restart id) (.restarted result)) := by
  rcases restart_ok came with ⟨unnamed, -, rfl⟩ | ⟨target, started, chosen, named, began, scheduled, -⟩
  · simp only [traffic, unnamed, reduceCtorEq, ↓reduceIte]
    exact movement.untouched (by simp [takesOut, unnamed]) rfl
  · by_cases here : target = place
    · subst here
      simp only [traffic, named, ↓reduceIte]
      refine .emptied ?_
      rw [mail, scheduled.taskAt_eq]
      exact began.mail_eq
    · simp only [traffic, named, Option.some.injEq, here, ↓reduceIte]
      refine movement.untouched (by simp [takesOut, named, here]) ?_
      rw [scheduled.taskAt_eq, began.taskAt_of_ne here]
      rfl

/-- Every direct call that came back treats the mail of each task as its traffic says. -/
theorem perform_mails {call : Call width} {result : Answer width n} (bootable : kernel.Bootable)
    (formed : kernel.ready.WellFormed) (direct : call ≠ .trap) (came : perform call kernel = .ok result after)
    (place : Fin n) :
    Mailed kernel place after (kernel.traffic place call result) := by
  have movement := perform_moves bootable formed direct came
  cases perform_ok came with
  | init came => exact init_mails bootable came
  | wait came => exact wait_mails formed movement came
  | yield came => exact yieldTask_mails formed movement came
  | exit came => exact exit_mails movement came
  | schedule came => exact schedule_mails movement came
  | send came => exact send_mails formed movement came
  | receive came => exact receive_mails movement came
  | restart came => exact restart_mails movement came
  | trap => exact absurd rfl direct

end Starts

/-- The core decides what the mail of a task is. -/
theorem mail_of_core (same : after.core = kernel.core) (place : Fin n) : after.mail place = kernel.mail place := by
  have mailboxEq : (after.taskAt place).mailbox = (kernel.taskAt place).mailbox :=
    congrFun (congrArg Core.mailbox same) place
  rw [mail, mailboxEq, mail]

end Kernel

namespace Moment

variable {width : Width} {M S : Type} {n : Nat} [Machine M S]

def traffic (moment : Moment width M S n) (place : Fin n) : Traffic width :=
  match moment.call?, moment.outcome? with
  | some call, some result => moment.before.traffic place call result
  | _, _ => .quiet

theorem traffic_of_performs {moment : Moment width M S n} {call : Call width} {result : Answer width n}
    {middle : Kernel width M S n} (performs : moment.Performs call result middle) (place : Fin n) :
    moment.traffic place = moment.before.traffic place call result := by
  rw [traffic, performs.call_eq, performs.outcome_eq]

/-- A moment treats the mail of each task as its traffic says. -/
theorem mails {moment : Moment width M S n} (came : moment.Came) (bootable : moment.before.Bootable)
    (formed : moment.before.ready.WellFormed) (place : Fin n) :
    ∃ middle, Kernel.Mailed moment.before place middle (moment.traffic place) ∧ moment.after.core = middle.core := by
  rcases performs_or_keeps came with ⟨call, result, middle, performs⟩ | ⟨uncalled, same⟩
  · rw [traffic_of_performs performs]
    exact ⟨middle, Kernel.perform_mails bootable formed performs.direct performs.performed place, performs.core_eq⟩
  · have quiet : moment.traffic place = .quiet := by rw [traffic, uncalled]
    rw [quiet]
    exact ⟨moment.before, .quiet ⟨rfl, id⟩ rfl, same⟩

end Moment

end CoopKernel
