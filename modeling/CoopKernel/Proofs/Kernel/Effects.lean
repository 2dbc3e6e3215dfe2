import CoopKernel.Proofs.Kernel.Stepping
import CoopKernel.Mail.Mailbox.Entries
import CoopKernel.Proofs.Ready.Threads

/-! # What each operation leaves behind

For every operation one lemma that says all it can have done, given that it came back: which answer it
gave, and which state it left, as the state before with some fields changed. Later statements go
through these lemmas and open no operation.

A state after a scheduling pass is described by `Scheduled`; machine and trace are left open there,
since a pass may idle and record as often as it has to.
-/

namespace CoopKernel.Kernel

variable {width : Width} {M S : Type} {n : Nat} {kernel after : Kernel width M S n}

/-! ## Scheduling -/

section Schedule

variable [Machine M S]

/-- What a scheduling pass makes of a ready list: one with the interrupt task put in if the machine has an interrupt
pending and the task is not in yet, and otherwise the same list. -/
inductive Served (rank : Fin n → Priority) (interruptTask : Option (Fin n)) (list : ReadyList n) (machine : M) :
    ReadyList n → Prop
  | kept (unneeded : ∀ place, interruptTask = some place → Machine.interruptPending machine = true →
      list.contains place = true) : Served rank interruptTask list machine list
  | readied {place : Fin n} {ready : ReadyList n} (isInterruptTask : interruptTask = some place)
      (pending : Machine.interruptPending machine = true) (absent : list.contains place = false)
      (inserted : list.insert rank place = .ok ready) : Served rank interruptTask list machine ready

/-- A machine that idled, any number of times. -/
inductive Slept : M → M → Prop
  | awake (machine : M) : Slept machine machine
  | idled {before middle after : M} (idled : Machine.idle before = .ok () middle) (later : Slept middle after) :
      Slept before after

/-- A scheduling pass that chose a task: the head of what it made of the ready list. -/
structure Scheduled (before : Kernel width M S n) (chosen : Fin n) (after : Kernel width M S n) : Prop where
  slept : Slept before.machine after.machine
  served : Served before.rank before.interruptTask before.ready after.machine after.ready
  head_eq : after.ready.head = some chosen
  after_eq : after = { before with
    ready := after.ready, current := some chosen, machine := after.machine, trace := after.trace }

theorem serveInterrupt_ok {answer : Unit} (came : serveInterrupt kernel = .ok answer after) :
    Served kernel.rank kernel.interruptTask kernel.ready after.machine after.ready ∧
      after = { kernel with ready := after.ready, trace := after.trace } := by
  simp only [serveInterrupt, bind_ok_iff, get_ok_iff] at came
  obtain ⟨_, _, ⟨rfl, rfl⟩, came⟩ := came
  obtain none | ⟨place, isInterruptTask⟩ := Option.eq_none_or_eq_some kernel.interruptTask
  · rw [none] at came
    obtain ⟨-, rfl⟩ := pure_ok_iff.mp came
    exact ⟨.kept fun place some => (nomatch none.symm.trans some), rfl⟩
  · rw [isInterruptTask] at came
    dsimp only at came
    split at came
    · next due =>
      simp only [bind_ok_iff, modify_ok_iff, makeReady_ok_iff] at came
      obtain ⟨_, _, rfl, ready, inserted, rfl⟩ := came
      rw [Bool.and_eq_true, Bool.not_eq_true'] at due
      exact ⟨.readied isInterruptTask due.1 due.2 inserted, rfl⟩
    · next notDue =>
      obtain ⟨-, rfl⟩ := pure_ok_iff.mp came
      refine ⟨.kept fun other same pending => ?_, rfl⟩
      cases isInterruptTask.symm.trans same
      simpa [pending] using notDue

theorem poll_ok {head : Option (Fin n)} (came : poll kernel = .ok head after) :
    after.ready.head = head ∧ Served kernel.rank kernel.interruptTask kernel.ready after.machine after.ready ∧
      after = { kernel with ready := after.ready, trace := after.trace } := by
  simp only [poll, bind_ok_iff, get_ok_iff, pure_ok_iff] at came
  obtain ⟨_, middle, served, _, _, ⟨rfl, rfl⟩, rfl, rfl⟩ := came
  exact ⟨rfl, serveInterrupt_ok served⟩

theorem sleep_ok {answer : Unit} (came : sleep kernel = .ok answer after) :
    Machine.idle kernel.machine = .ok () after.machine ∧
      after = { kernel with machine := after.machine, trace := after.trace } := by
  simp only [sleep, bind_ok_iff, modify_ok_iff, onMachine_ok_iff] at came
  obtain ⟨_, _, rfl, machine, idled, rfl⟩ := came
  exact ⟨idled, rfl⟩

/-- A list that a pass put the interrupt task in has a head. -/
theorem Served.eq_of_headless {rank : Fin n → Priority} {interruptTask : Option (Fin n)} {list ready : ReadyList n}
    {machine : M} (served : Served rank interruptTask list machine ready) (headless : ready.head = none) :
    ready = list := by
  cases served with
  | kept _ => rfl
  | readied _ _ absent inserted => exact absurd headless (ReadyList.head_ne_none_of_insert absent inserted)

/-- Idling changes machine and trace only, so the list that comes out was made by the last poll. -/
theorem awaitReady_ok {left : Nat} {chosen : Fin n} (came : awaitReady left kernel = .ok chosen after) :
    Slept kernel.machine after.machine ∧ after.ready.head = some chosen ∧
      Served kernel.rank kernel.interruptTask kernel.ready after.machine after.ready ∧
      after = { kernel with ready := after.ready, machine := after.machine, trace := after.trace } := by
  induction left generalizing kernel with
  | zero =>
    simp only [awaitReady, bind_ok_iff] at came
    obtain ⟨head, middle, polled, came⟩ := came
    obtain ⟨headEq, served, middleEq⟩ := poll_ok polled
    have machineEq : middle.machine = kernel.machine := by rw [middleEq]
    cases head with
    | some place =>
      obtain ⟨rfl, rfl⟩ := pure_ok_iff.mp came
      exact ⟨machineEq ▸ .awake _, headEq, served, by rw [middleEq]⟩
    | none =>
      simp only [bind_ok_iff, throw_ok_iff, and_false, exists_false] at came
  | succ left ih =>
    simp only [awaitReady, bind_ok_iff] at came
    obtain ⟨head, middle, polled, came⟩ := came
    obtain ⟨headEq, served, middleEq⟩ := poll_ok polled
    have machineEq : middle.machine = kernel.machine := by rw [middleEq]
    cases head with
    | some place =>
      obtain ⟨rfl, rfl⟩ := pure_ok_iff.mp came
      exact ⟨machineEq ▸ .awake _, headEq, served, by rw [middleEq]⟩
    | none =>
      simp only [bind_ok_iff] at came
      obtain ⟨_, asleep, slept, came⟩ := came
      obtain ⟨idled, asleepEq⟩ := sleep_ok slept
      obtain ⟨later, chosenEq, servedLater, afterEq⟩ := ih came
      have sameReady : middle.ready = kernel.ready := served.eq_of_headless headEq
      rw [asleepEq, middleEq, sameReady] at servedLater afterEq
      rw [machineEq] at idled
      exact ⟨.idled idled later, chosenEq, servedLater, afterEq⟩

/-- A list that has a head has one after a pass looked at it. -/
theorem Served.head_ne_none {rank : Fin n → Priority} {interruptTask : Option (Fin n)} {list ready : ReadyList n}
    {machine : M} (served : Served rank interruptTask list machine ready) (headed : list.head ≠ none) :
    ready.head ≠ none := fun headless => by
  rw [served.eq_of_headless headless] at headless
  exact headed headless

/-- With a task ready nobody sleeps. -/
theorem awaitReady_awake {left : Nat} {chosen : Fin n} (headed : kernel.ready.head ≠ none)
    (came : awaitReady left kernel = .ok chosen after) : after.machine = kernel.machine := by
  rcases left with - | left
  all_goals
    simp only [awaitReady, bind_ok_iff] at came
    obtain ⟨head, middle, polled, came⟩ := came
    obtain ⟨headEq, served, middleEq⟩ := poll_ok polled
    cases head with
    | some place =>
      obtain ⟨-, rfl⟩ := pure_ok_iff.mp came
      rw [middleEq]
    | none => exact absurd headEq (served.head_ne_none headed)

/-- What was recorded before a pass does not matter to it. -/
theorem Scheduled.retrace {chosen : Fin n} (scheduled : Scheduled kernel chosen after) (trace : KernelTrace) :
    Scheduled { kernel with trace := trace } chosen after :=
  ⟨scheduled.slept, scheduled.served, scheduled.head_eq, scheduled.after_eq⟩

theorem schedule_ok {chosen : Fin n} (came : schedule kernel = .ok chosen after) :
    Scheduled kernel chosen after := by
  simp only [schedule, bind_ok_iff, get_ok_iff, modify_ok_iff, pure_ok_iff] at came
  obtain ⟨_, _, ⟨rfl, rfl⟩, _, middle, awaited, _, _, rfl, rfl, rfl⟩ := came
  obtain ⟨slept, headEq, served, middleEq⟩ := awaitReady_ok awaited
  exact ⟨slept, served, headEq, by rw [middleEq]⟩

theorem schedule_awake {chosen : Fin n} (headed : kernel.ready.head ≠ none)
    (came : schedule kernel = .ok chosen after) : after.machine = kernel.machine := by
  simp only [schedule, bind_ok_iff, get_ok_iff, modify_ok_iff, pure_ok_iff] at came
  obtain ⟨_, _, ⟨rfl, rfl⟩, _, middle, awaited, _, _, rfl, rfl, rfl⟩ := came
  have awake : middle.machine = kernel.machine := awaitReady_awake headed awaited
  exact awake

theorem yieldTask_ok {chosen : Fin n} (came : yieldTask kernel = .ok chosen after) :
    ∃ place ready, kernel.current = some place ∧
      (kernel.ready.remove place).insert kernel.rank place = .ok ready ∧
      Scheduled { kernel with ready := ready } chosen after := by
  simp only [yieldTask, bind_ok_iff, caller_ok_iff, modify_ok_iff, makeReady_ok_iff] at came
  obtain ⟨place, _, ⟨isCaller, rfl⟩, _, _, rfl, _, _, rfl, _, _, ⟨ready, inserted, rfl⟩, came⟩ := came
  exact ⟨place, ready, isCaller, inserted, (schedule_ok came).retrace _⟩

theorem exit_ok {chosen : Fin n} (came : exit kernel = .ok chosen after) :
    ∃ place, kernel.current = some place ∧
      Scheduled ((kernel.unready place).setWaiting place TaskMask.empty) chosen after := by
  simp only [exit, bind_ok_iff, caller_ok_iff, modify_ok_iff] at came
  obtain ⟨place, _, ⟨isCaller, rfl⟩, _, _, rfl, _, _, rfl, _, _, rfl, came⟩ := came
  exact ⟨place, isCaller, (schedule_ok came).retrace _⟩

/-- What a wait for a set of wanted senders does before its scheduling pass. -/
inductive Waits (kernel : Kernel width M S n) (place : Fin n) (wanted : TaskMask) : Kernel width M S n → Prop
  | yields {ready : ReadyList n} (nobody : wanted.isEmpty = true)
      (inserted : (kernel.ready.remove place).insert kernel.rank place = .ok ready) :
      Waits kernel place wanted { kernel with ready := ready }
  | stays {ready : ReadyList n} (somebody : wanted.isEmpty = false)
      (hasMail : kernel.hasMailFrom place wanted = true)
      (inserted : (kernel.ready.remove place).insert kernel.rank place = .ok ready) :
      Waits kernel place wanted { kernel.setWaiting place wanted with ready := ready }
  | blocks (somebody : wanted.isEmpty = false) (noMail : kernel.hasMailFrom place wanted = false) :
      Waits kernel place wanted ((kernel.unready place).setWaiting place wanted)

theorem wait_ok {mask : TaskMask} {result : Except MailError Unit} {chosen : Fin n}
    (came : wait mask kernel = .ok (result, chosen) after) :
    ∃ place middle, kernel.current = some place ∧ result = .ok () ∧
      Waits kernel place (mask ∩ (kernel.desc place).permission) middle ∧ Scheduled middle chosen after := by
  simp only [wait, bind_ok_iff, caller_ok_iff, get_ok_iff, modify_ok_iff] at came
  obtain ⟨place, _, ⟨isCaller, rfl⟩, _, _, ⟨rfl, rfl⟩, _, _, rfl, came⟩ := came
  split at came
  · next nobody =>
    simp only [bind_ok_iff, makeReady_ok_iff, pure_ok_iff, modify_ok_iff] at came
    obtain ⟨_, _, ⟨ready, inserted, rfl⟩, _, _, ⟨rfl, rfl⟩, _, _, rfl, _, _, scheduled, answered, rfl⟩ := came
    cases answered
    exact ⟨place, _, isCaller, rfl, .yields nobody inserted, (schedule_ok scheduled).retrace kernel.trace⟩
  · next somebody =>
    simp only [bind_ok_iff, modify_ok_iff, get_ok_iff] at came
    obtain ⟨_, _, rfl, _, _, ⟨rfl, rfl⟩, came⟩ := came
    rw [hasMailFrom_setWaiting] at came
    split at came
    · next hasMail =>
      simp only [bind_ok_iff, makeReady_ok_iff, pure_ok_iff, modify_ok_iff,
        rank_of_desc (desc_setWaiting ..)] at came
      obtain ⟨_, _, ⟨ready, inserted, rfl⟩, _, _, ⟨rfl, rfl⟩, _, _, rfl, _, _, scheduled, answered, rfl⟩ := came
      cases answered
      exact ⟨place, _, isCaller, rfl, .stays (Bool.eq_false_iff.mpr somebody) hasMail inserted,
        (schedule_ok scheduled).retrace kernel.trace⟩
    · next noMail =>
      simp only [bind_ok_iff, pure_ok_iff, modify_ok_iff] at came
      obtain ⟨_, _, ⟨rfl, rfl⟩, _, _, rfl, _, _, scheduled, answered, rfl⟩ := came
      cases answered
      exact ⟨place, _, isCaller, rfl, .blocks (Bool.eq_false_iff.mpr somebody) (Bool.eq_false_iff.mpr noMail),
        (schedule_ok scheduled).retrace kernel.trace⟩

end Schedule

/-! ## Mail -/

/-- The delivery of one message, as its result and the state it leaves. -/
inductive Delivery (kernel : Kernel width M S n) (sender receiver : Fin n) (message : Message width) :
    Except MailError Unit → Kernel width M S n → Prop
  | denied (forbidden : (kernel.desc receiver).permission.contains (.ofIndex sender) = false) :
      Delivery kernel sender receiver message (.error .denied) kernel
  | full (permitted : (kernel.desc receiver).permission.contains (.ofIndex sender) = true)
      (noRoom : (kernel.taskAt receiver).mailbox.isFull = true) :
      Delivery kernel sender receiver message (.error .fifoFull) kernel
  | posted {box : Mailbox width} (permitted : (kernel.desc receiver).permission.contains (.ofIndex sender) = true)
      (pushed : (kernel.taskAt receiver).mailbox.push ⟨.ofIndex sender, message⟩ = .ok box)
      (unawaited : (kernel.taskAt receiver).waiting.contains (.ofIndex sender) = false) :
      Delivery kernel sender receiver message (.ok ()) (kernel.setMailbox receiver box)
  | woke {box : Mailbox width} {ready : ReadyList n}
      (permitted : (kernel.desc receiver).permission.contains (.ofIndex sender) = true)
      (pushed : (kernel.taskAt receiver).mailbox.push ⟨.ofIndex sender, message⟩ = .ok box)
      (awaited : (kernel.taskAt receiver).waiting.contains (.ofIndex sender) = true)
      (inserted : kernel.ready.insert kernel.rank receiver = .ok ready) :
      Delivery kernel sender receiver message (.ok ()) { kernel.setMailbox receiver box with ready := ready }

theorem deliver_ok {sender receiver : Fin n} {message : Message width} {result : Except MailError Unit}
    (came : deliver sender receiver message kernel = .ok result after) :
    Delivery kernel sender receiver message result after := by
  simp only [deliver, bind_ok_iff, get_ok_iff] at came
  obtain ⟨_, _, ⟨rfl, rfl⟩, came⟩ := came
  split at came
  · next permitted =>
    cases pushed : (kernel.taskAt receiver).mailbox.push ⟨.ofIndex sender, message⟩ with
    | error error =>
      rw [pushed] at came
      obtain ⟨rfl, rfl⟩ := pure_ok_iff.mp came
      obtain ⟨noRoom, rfl⟩ := Mailbox.push_error pushed
      exact .full permitted noRoom
    | ok box =>
      rw [pushed] at came
      simp only [bind_ok_iff, modify_ok_iff] at came
      obtain ⟨_, _, rfl, came⟩ := came
      split at came
      · next awaited =>
        simp only [bind_ok_iff, makeReady_ok_iff, pure_ok_iff, rank_of_desc (desc_setMailbox ..)] at came
        obtain ⟨_, _, ⟨ready, inserted, rfl⟩, rfl, rfl⟩ := came
        exact .woke permitted pushed awaited inserted
      · next unawaited =>
        obtain ⟨rfl, rfl⟩ := pure_ok_iff.mp came
        exact .posted permitted pushed (Bool.eq_false_iff.mpr unawaited)
  · next forbidden =>
    obtain ⟨rfl, rfl⟩ := pure_ok_iff.mp came
    exact .denied (Bool.eq_false_iff.mpr forbidden)

/-- Deliveries to the places of a list, the sender's own left out, with their results. -/
inductive Deliveries (sender : Fin n) (message : Message width) :
    List (Fin n) → List (Except MailError Unit) → Kernel width M S n → Kernel width M S n → Prop
  | done (kernel : Kernel width M S n) : Deliveries sender message [] [] kernel kernel
  | own {rest : List (Fin n)} {results : List (Except MailError Unit)} {kernel after : Kernel width M S n}
      (later : Deliveries sender message rest results kernel after) :
      Deliveries sender message (sender :: rest) results kernel after
  | next {receiver : Fin n} {rest : List (Fin n)} {result : Except MailError Unit}
      {results : List (Except MailError Unit)} {kernel middle after : Kernel width M S n}
      (other : receiver ≠ sender)
      (delivery : Delivery kernel sender receiver message result middle)
      (later : Deliveries sender message rest results middle after) :
      Deliveries sender message (receiver :: rest) (result :: results) kernel after

theorem broadcast_ok {sender : Fin n} {message : Message width} {places : List (Fin n)}
    {sofar result : Except MailError Unit}
    (came : broadcast sender message sofar places kernel = .ok result after) :
    ∃ results, Deliveries sender message places results kernel after ∧
      result = results.foldl broadcastResult sofar := by
  induction places generalizing kernel sofar with
  | nil =>
    obtain ⟨rfl, rfl⟩ := pure_ok_iff.mp came
    exact ⟨[], .done kernel, rfl⟩
  | cons receiver rest ih =>
    rw [broadcast] at came
    split at came
    · next own =>
      subst own
      obtain ⟨results, deliveries, folded⟩ := ih came
      exact ⟨results, .own deliveries, folded⟩
    · next other =>
      obtain ⟨delivery, middle, delivered, came⟩ := bind_ok_iff.mp came
      obtain ⟨results, deliveries, folded⟩ := ih came
      exact ⟨delivery :: results, .next other (deliver_ok delivered) deliveries, folded⟩

/-- What a send does before it is recorded. -/
inductive Sends (kernel : Kernel width M S n) (sender : Fin n) (receiver : TaskId) (message : Message width) :
    Except MailError Unit → Kernel width M S n → Prop
  | toAll {results : List (Except MailError Unit)} {middle : Kernel width M S n} (all : receiver = TaskId.everyone)
      (deliveries : Deliveries sender message (List.finRange n) results kernel middle) :
      Sends kernel sender receiver message (results.foldl broadcastResult (.error .denied)) middle
  | toOne {place : Fin n} {result : Except MailError Unit} {middle : Kernel width M S n}
      (one : receiver ≠ TaskId.everyone) (named : receiver.within n = some place)
      (delivery : Delivery kernel sender place message result middle) :
      Sends kernel sender receiver message result middle
  | toNobody (one : receiver ≠ TaskId.everyone) (unnamed : receiver.within n = none) :
      Sends kernel sender receiver message (.error .badParam) kernel

theorem send_recorded {receiver : TaskId} {message : Message width} {result : Except MailError Unit}
    (came : send receiver message kernel = .ok result after) :
    ∃ sender middle, kernel.current = some sender ∧ Sends kernel sender receiver message result middle ∧
      after = middle.record (.send (.ofIndex sender) receiver (statusOf result)) := by
  simp only [send, bind_ok_iff, caller_ok_iff] at came
  obtain ⟨sender, _, ⟨isCaller, rfl⟩, came⟩ := came
  split at came
  · next all =>
    simp only [bind_ok_iff, modify_ok_iff, pure_ok_iff] at came
    obtain ⟨_, middle, delivered, _, _, rfl, rfl, rfl⟩ := came
    obtain ⟨results, deliveries, rfl⟩ := broadcast_ok delivered
    exact ⟨sender, middle, isCaller, .toAll all deliveries, rfl⟩
  · next one =>
    cases named : receiver.within n with
    | some place =>
      rw [named] at came
      simp only [bind_ok_iff, modify_ok_iff, pure_ok_iff] at came
      obtain ⟨_, middle, delivered, _, _, rfl, rfl, rfl⟩ := came
      exact ⟨sender, middle, isCaller, .toOne one named (deliver_ok delivered), rfl⟩
    | none =>
      rw [named] at came
      simp only [bind_ok_iff, modify_ok_iff, pure_ok_iff] at came
      obtain ⟨_, _, ⟨rfl, rfl⟩, _, _, rfl, rfl, rfl⟩ := came
      exact ⟨sender, _, isCaller, .toNobody one named, rfl⟩

theorem send_ok {receiver : TaskId} {message : Message width} {result : Except MailError Unit}
    (came : send receiver message kernel = .ok result after) :
    ∃ sender middle, kernel.current = some sender ∧ Sends kernel sender receiver message result middle ∧
      after = { middle with trace := after.trace } := by
  obtain ⟨sender, middle, isCaller, sends, rfl⟩ := send_recorded came
  exact ⟨sender, middle, isCaller, sends, rfl⟩

theorem receive_recorded {result : Except MailError (Entry width)} (came : receive kernel = .ok result after) :
    ∃ place, kernel.current = some place ∧
      ((∃ entry box, (kernel.taskAt place).mailbox.take (kernel.taskAt place).waiting = .ok (entry, box) ∧
          result = .ok entry ∧
          after = (kernel.setMailbox place box).record (.receive (.ofIndex place) entry.sender success)) ∨
        ∃ error, (kernel.taskAt place).mailbox.take (kernel.taskAt place).waiting = .error error ∧
          result = .error error ∧ after = kernel.record (.receive (.ofIndex place) .nobody error.code)) := by
  simp only [receive, bind_ok_iff, caller_ok_iff, get_ok_iff] at came
  obtain ⟨place, _, ⟨isCaller, rfl⟩, _, _, ⟨rfl, rfl⟩, came⟩ := came
  cases taken : (kernel.taskAt place).mailbox.take (kernel.taskAt place).waiting with
  | ok found =>
    obtain ⟨entry, box⟩ := found
    rw [taken] at came
    simp only [bind_ok_iff, modify_ok_iff, pure_ok_iff] at came
    obtain ⟨_, _, rfl, _, _, rfl, rfl, rfl⟩ := came
    exact ⟨place, isCaller, .inl ⟨entry, box, taken, rfl, rfl⟩⟩
  | error error =>
    rw [taken] at came
    simp only [bind_ok_iff, modify_ok_iff, pure_ok_iff] at came
    obtain ⟨_, _, rfl, rfl, rfl⟩ := came
    exact ⟨place, isCaller, .inr ⟨error, taken, rfl, rfl⟩⟩

theorem receive_ok {result : Except MailError (Entry width)} (came : receive kernel = .ok result after) :
    ∃ place, kernel.current = some place ∧
      ((∃ entry box, (kernel.taskAt place).mailbox.take (kernel.taskAt place).waiting = .ok (entry, box) ∧
          result = .ok entry ∧ after = { kernel.setMailbox place box with trace := after.trace }) ∨
        ∃ error, (kernel.taskAt place).mailbox.take (kernel.taskAt place).waiting = .error error ∧
          result = .error error ∧ after = { kernel with trace := after.trace }) := by
  obtain ⟨place, isCaller, ⟨entry, box, taken, rfl, rfl⟩ | ⟨error, taken, rfl, rfl⟩⟩ := receive_recorded came
  · exact ⟨place, isCaller, .inl ⟨entry, box, taken, rfl, rfl⟩⟩
  · exact ⟨place, isCaller, .inr ⟨error, taken, rfl, rfl⟩⟩

/-! ## Starting tasks -/

section Lifecycle

variable [Machine M S]

/-- A task in its boot state, with a new context, made ready. -/
structure Started (before : Kernel width M S n) (place : Fin n) (after : Kernel width M S n) : Prop where
  inserted : (before.ready.isolate place).insert before.rank place = .ok after.ready
  rebuilt : ∃ context,
    Machine.buildContext (.ofIndex place) (before.desc place) before.machine = .ok context after.machine ∧
    after = { (before.resetTask place).changeContext place (fun _ => context) with
      ready := after.ready, machine := after.machine }

theorem startTask_ok {place : Fin n} {answer : Unit} (came : startTask place kernel = .ok answer after) :
    Started kernel place after := by
  simp only [startTask, rebuildContext, bind_ok_iff, modify_ok_iff, get_ok_iff, onMachine_ok_iff,
    makeReady_ok_iff] at came
  obtain ⟨_, _, rfl, _, _, ⟨_, _, ⟨rfl, rfl⟩, context, _, ⟨machine, built, rfl⟩, rfl⟩, ready, inserted, rfl⟩ := came
  rw [desc_resetTask] at built
  refine ⟨?_, context, built, rfl⟩
  rw [rank_of_desc (desc_changeContext ..)] at inserted
  have rankEq : (kernel.resetTask place).rank = kernel.rank := rank_of_desc (desc_resetTask ..)
  exact rankEq ▸ inserted

theorem Started.desc_eq {place : Fin n} (started : Started kernel place after) : after.desc = kernel.desc := by
  obtain ⟨context, -, afterEq⟩ := started.rebuilt
  rw [afterEq]
  change ((kernel.resetTask place).changeContext place fun _ => context).desc = kernel.desc
  rw [desc_changeContext, desc_resetTask]

/-- What a started task has kept is its description. -/
theorem Started.taskAt_self {place : Fin n} (started : Started kernel place after) :
    ∃ context, Machine.buildContext (.ofIndex place) (kernel.desc place) kernel.machine = .ok context after.machine ∧
      after.taskAt place = ⟨kernel.desc place, context, .empty, .empty⟩ := by
  obtain ⟨context, built, afterEq⟩ := started.rebuilt
  have taskEq : after.taskAt place = ((kernel.resetTask place).changeContext place fun _ => context).taskAt place := by
    rw [afterEq]
    rfl
  refine ⟨context, built, ?_⟩
  rw [taskEq, changeContext, taskAt_changeTask, if_pos rfl, resetTask, taskAt_changeTask, if_pos rfl]
  rfl

theorem Started.taskAt_of_ne {place other : Fin n} (started : Started kernel place after) (apart : place ≠ other) :
    after.taskAt other = kernel.taskAt other := by
  obtain ⟨context, -, afterEq⟩ := started.rebuilt
  have taskEq : after.taskAt other = ((kernel.resetTask place).changeContext place fun _ => context).taskAt other := by
    rw [afterEq]
    rfl
  rw [taskEq, changeContext, taskAt_changeTask, if_neg apart, resetTask, taskAt_changeTask, if_neg apart]
  rfl

/-- The tasks at some places, started one after the other. None of them has an empty section. -/
inductive Starts : List (Fin n) → Kernel width M S n → Kernel width M S n → Prop
  | done (kernel : Kernel width M S n) : Starts [] kernel kernel
  | next {place : Fin n} {rest : List (Fin n)} {kernel middle after : Kernel width M S n}
      (sections : (kernel.desc place).firstEmpty = none) (started : Started kernel place middle)
      (later : Starts rest middle after) : Starts (place :: rest) kernel after

theorem Starts.sections {places : List (Fin n)} (starts : Starts places kernel after) :
    ∀ place ∈ places, (kernel.desc place).firstEmpty = none := by
  induction starts with
  | done => exact fun _ member => absurd member List.not_mem_nil
  | next sections started _ ih =>
    intro other member
    rcases List.mem_cons.mp member with rfl | later
    · exact sections
    · rw [← started.desc_eq]
      exact ih other later

theorem Starts.taskAt_of_notMem {places : List (Fin n)} {place : Fin n} (starts : Starts places kernel after)
    (absent : place ∉ places) : after.taskAt place = kernel.taskAt place := by
  induction starts with
  | done => rfl
  | next _ started _ ih =>
    rw [List.mem_cons, not_or] at absent
    exact (ih absent.2).trans (started.taskAt_of_ne (Ne.symm absent.1))

/-- How the start of the tasks at some places ends: with all of them started, or in front of the first one with an
empty section. -/
inductive StartsUpTo (kernel : Kernel width M S n) (places : List (Fin n)) :
    Except ConfigError Unit → Kernel width M S n → Prop
  | all {after : Kernel width M S n} (starts : Starts places kernel after) : StartsUpTo kernel places (.ok ()) after
  | stopped {front rest : List (Fin n)} {place : Fin n} {kind : SectionKind} {after : Kernel width M S n}
      (placesEq : places = front ++ place :: rest) (starts : Starts front kernel after)
      (empty : (kernel.desc place).firstEmpty = some kind) :
      StartsUpTo kernel places (.error (.emptySection (.ofIndex place) kind)) after

theorem startTasks_ok {places : List (Fin n)} {result : Except ConfigError Unit}
    (came : startTasks places kernel = .ok result after) : StartsUpTo kernel places result after := by
  induction places generalizing kernel with
  | nil =>
    obtain ⟨rfl, rfl⟩ := pure_ok_iff.mp came
    exact .all (.done kernel)
  | cons place rest ih =>
    simp only [startTasks, bind_ok_iff, get_ok_iff] at came
    obtain ⟨_, _, ⟨rfl, rfl⟩, came⟩ := came
    cases empty : (kernel.desc place).firstEmpty with
    | some kind =>
      rw [empty] at came
      obtain ⟨rfl, rfl⟩ := pure_ok_iff.mp came
      exact .stopped (List.nil_append _).symm (.done kernel) empty
    | none =>
      rw [empty] at came
      obtain ⟨_, middle, began, came⟩ := bind_ok_iff.mp came
      have started := startTask_ok began
      cases ih came with
      | all starts => exact .all (.next empty started starts)
      | stopped placesEq starts later =>
        rw [started.desc_eq] at later
        exact .stopped (congrArg (place :: ·) placesEq) (.next empty started starts) later

/-- Without an empty section all tasks are started. -/
theorem startTasks_starts {places : List (Fin n)} {result : Except ConfigError Unit}
    (sections : ∀ place, (kernel.desc place).firstEmpty = none)
    (came : startTasks places kernel = .ok result after) : result = .ok () ∧ Starts places kernel after := by
  cases startTasks_ok came with
  | all starts => exact ⟨rfl, starts⟩
  | stopped _ _ empty => cases (sections _).symm.trans empty

/-- A machine whose processor was handed from one task to another. -/
def Switched (prev next : TaskId) (before after : M) : Prop :=
  ∃ machine, Machine.switchSpace prev next before = .ok () machine ∧ after = Machine.setCurrent next machine

theorem switchTo_ok {prev : TaskId} {next : Fin n} {answer : Unit}
    (came : switchTo prev next kernel = .ok answer after) :
    Switched prev (.ofIndex next) kernel.machine after.machine ∧
      after = { kernel with machine := after.machine, trace := after.trace } := by
  simp only [switchTo, bind_ok_iff, modify_ok_iff, onMachine_ok_iff] at came
  obtain ⟨_, _, rfl, _, _, ⟨machine, switched, rfl⟩, rfl⟩ := came
  exact ⟨⟨machine, switched, rfl⟩, rfl⟩

theorem init_ran {result : Except ConfigError (Fin n)} (came : init kernel = .ok result after) :
    (∃ error, startTasks (List.finRange n) { kernel with ready := kernel.ready.clear, current := none } =
        .ok (.error error) after ∧ result = .error error) ∨
      ∃ started scheduled chosen,
        startTasks (List.finRange n) { kernel with ready := kernel.ready.clear, current := none } =
          .ok (.ok ()) started ∧
          schedule started = .ok chosen scheduled ∧ result = .ok chosen ∧
          Switched TaskId.nobody (.ofIndex chosen) scheduled.machine after.machine ∧
          after = { scheduled with machine := after.machine, trace := after.trace } := by
  simp only [init, bind_ok_iff, modify_ok_iff] at came
  obtain ⟨_, _, rfl, outcome, started, began, came⟩ := came
  cases outcome with
  | error error =>
    obtain ⟨rfl, rfl⟩ := pure_ok_iff.mp came
    exact .inl ⟨error, began, rfl⟩
  | ok =>
    simp only [bind_ok_iff, modify_ok_iff, pure_ok_iff] at came
    obtain ⟨chosen, scheduled, passed, _, _, rfl, _, switched, handed, rfl, rfl⟩ := came
    obtain ⟨switched, afterEq⟩ := switchTo_ok handed
    refine .inr ⟨started, scheduled, chosen, began, passed, rfl, switched, ?_⟩
    rw [afterEq]
    rfl

theorem init_ok {result : Except ConfigError (Fin n)} (came : init kernel = .ok result after) :
    (∃ error, startTasks (List.finRange n) { kernel with ready := kernel.ready.clear, current := none } =
        .ok (.error error) after ∧ result = .error error) ∨
      ∃ started scheduled chosen,
        startTasks (List.finRange n) { kernel with ready := kernel.ready.clear, current := none } =
          .ok (.ok ()) started ∧
          Scheduled started chosen scheduled ∧ result = .ok chosen ∧
          Switched TaskId.nobody (.ofIndex chosen) scheduled.machine after.machine ∧
          after = { scheduled with machine := after.machine, trace := after.trace } := by
  rcases init_ran came with refused | ⟨started, scheduled, chosen, began, passed, rest⟩
  · exact .inl refused
  · exact .inr ⟨started, scheduled, chosen, began, schedule_ok passed, rest⟩

theorem restart_ran {id : TaskId} {result : Except MailError (Fin n)} (came : restart id kernel = .ok result after) :
    (id.within n = none ∧ result = .error .badParam ∧ after = kernel) ∨
      ∃ place started chosen, id.within n = some place ∧
        Started ((kernel.record (.restart id)).unready place) place started ∧
        schedule started = .ok chosen after ∧ result = .ok chosen := by
  rw [restart] at came
  cases named : id.within n with
  | none =>
    rw [named] at came
    obtain ⟨rfl, rfl⟩ := pure_ok_iff.mp came
    exact .inl ⟨rfl, rfl, rfl⟩
  | some place =>
    rw [named] at came
    simp only [bind_ok_iff, modify_ok_iff, pure_ok_iff] at came
    obtain ⟨_, _, rfl, _, _, rfl, _, started, began, chosen, _, passed, rfl, rfl⟩ := came
    exact .inr ⟨place, started, chosen, rfl, startTask_ok began, passed, rfl⟩

theorem restart_ok {id : TaskId} {result : Except MailError (Fin n)} (came : restart id kernel = .ok result after) :
    (id.within n = none ∧ result = .error .badParam ∧ after = kernel) ∨
      ∃ place started chosen, id.within n = some place ∧
        Started ((kernel.record (.restart id)).unready place) place started ∧
        Scheduled started chosen after ∧ result = .ok chosen := by
  rcases restart_ran came with refused | ⟨place, started, chosen, named, began, passed, answered⟩
  · exact .inl refused
  · exact .inr ⟨place, started, chosen, named, began, schedule_ok passed, answered⟩

/-! ## Calls -/

/-- The operation behind a call that came back, with the answer that the call makes of the operation's. -/
inductive Performed (kernel : Kernel width M S n) : Call width → Answer width n → Kernel width M S n → Prop
  | init {result : Except ConfigError (Fin n)} {after : Kernel width M S n}
      (came : init kernel = .ok result after) :
      Performed kernel .init (.booted result) after
  | wait {mask : TaskMask} {result : Except MailError Unit} {chosen : Fin n} {after : Kernel width M S n}
      (came : wait mask kernel = .ok (result, chosen) after) :
      Performed kernel (.wait mask) (.waited result chosen) after
  | yield {chosen : Fin n} {after : Kernel width M S n} (came : yieldTask kernel = .ok chosen after) :
      Performed kernel .yield (.next chosen) after
  | exit {chosen : Fin n} {after : Kernel width M S n} (came : exit kernel = .ok chosen after) :
      Performed kernel .exit (.next chosen) after
  | schedule {chosen : Fin n} {after : Kernel width M S n} (came : schedule kernel = .ok chosen after) :
      Performed kernel .schedule (.next chosen) after
  | send {receiver : TaskId} {message : Message width} {result : Except MailError Unit} {after : Kernel width M S n}
      (came : send receiver message kernel = .ok result after) :
      Performed kernel (.send receiver message) (.sent result) after
  | receive {result : Except MailError (Entry width)} {after : Kernel width M S n}
      (came : receive kernel = .ok result after) : Performed kernel .receive (.received result) after
  | restart {id : TaskId} {result : Except MailError (Fin n)} {after : Kernel width M S n}
      (came : restart id kernel = .ok result after) : Performed kernel (.restart id) (.restarted result) after
  | trap {chosen : Fin n} {after : Kernel width M S n} (came : trap kernel = .ok chosen after) :
      Performed kernel .trap (.next chosen) after

theorem perform_ok {call : Call width} {result : Answer width n} (came : perform call kernel = .ok result after) :
    Performed kernel call result after := by
  cases call <;> obtain ⟨answer, middle, ended, answered⟩ := bind_ok_iff.mp came <;>
    obtain ⟨rfl, rfl⟩ := pure_ok_iff.mp answered
  case init => exact .init ended
  case wait => exact .wait ended
  case yield => exact .yield ended
  case exit => exact .exit ended
  case schedule => exact .schedule ended
  case send => exact .send ended
  case receive => exact .receive ended
  case restart => exact .restart ended
  case trap => exact .trap ended

end Lifecycle

end CoopKernel.Kernel
