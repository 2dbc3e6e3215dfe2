import CoopKernel.Proofs.Scheduling.Walk

/-! # How operations fail

The counterpart of what each operation leaves behind: for every operation one lemma that says how it
can have ended with a fault. On well-formed lists none of them stops for the ready list, so what
remains is a call with no task running, a machine that does not wake while the list is empty
(`Overslept`), and a machine that cannot build a context or change the address space. `Failed` lists
these cases, and `act_error` says that there are no others.
-/

namespace CoopKernel

section Steps

variable {σ α β : Type}

/-- A sequence fails in its first part, or in the second after the first came back. -/
theorem bind_error_iff {step : EStateM Fault σ α} {next : α → EStateM Fault σ β} {before after : σ} {fault : Fault} :
    (step >>= next) before = .error fault after ↔
      step before = .error fault after ∨
        ∃ value middle, step before = .ok value middle ∧ next value middle = .error fault after := by
  change EStateM.bind step next before = .error fault after ↔ _
  unfold EStateM.bind
  split
  · next value middle came =>
    constructor
    · exact fun failed => .inr ⟨value, middle, came, failed⟩
    · rintro (failed | ⟨_, _, same, failed⟩)
      · cases came.symm.trans failed
      · cases came.symm.trans same
        exact failed
  · next cause middle stopped =>
    constructor
    · rintro ⟨⟩
      exact .inl stopped
    · rintro (failed | ⟨_, _, same, -⟩)
      · cases stopped.symm.trans failed
        rfl
      · cases stopped.symm.trans same

theorem pure_error_iff {value : α} {before after : σ} {fault : Fault} :
    (pure value : EStateM Fault σ α) before = .error fault after ↔ False :=
  ⟨fun impossible => (nomatch impossible), False.elim⟩

theorem get_error_iff {before after : σ} {fault : Fault} :
    (get : EStateM Fault σ σ) before = .error fault after ↔ False :=
  ⟨fun impossible => (nomatch impossible), False.elim⟩

theorem modify_error_iff {change : σ → σ} {before after : σ} {fault : Fault} :
    (modify change : EStateM Fault σ PUnit) before = .error fault after ↔ False :=
  ⟨fun impossible => (nomatch impossible), False.elim⟩

end Steps

namespace Kernel

variable {width : Width} {M S : Type} {n : Nat} {kernel after : Kernel width M S n} {fault : Fault}

theorem makeReady_error_iff {place : Fin n} :
    makeReady place kernel = .error fault after ↔
      kernel.ready.insert kernel.rank place = .error fault ∧ kernel = after := by
  unfold makeReady
  cases kernel.ready.insert kernel.rank place <;> simp

theorem onMachine_error_iff {α : Type} {step : EStateM Fault M α} :
    onMachine step kernel = .error fault after ↔
      ∃ machine, step kernel.machine = .error fault machine ∧ { kernel with machine := machine } = after := by
  unfold onMachine
  cases step kernel.machine with
  | ok value machine => simp
  | error cause machine =>
    simp only [EStateM.Result.error.injEq]
    constructor
    · rintro ⟨rfl, rfl⟩
      exact ⟨machine, ⟨rfl, rfl⟩, rfl⟩
    · rintro ⟨_, ⟨rfl, rfl⟩, rfl⟩
      exact ⟨rfl, rfl⟩

theorem caller_error_iff : (caller : KernelM width M S n (Fin n)) kernel = .error fault after ↔
    kernel.current = none ∧ Fault.noCaller = fault ∧ kernel = after := by
  unfold caller
  cases kernel.current <;> simp

/-- Whoever is put into a list whose links are in order, finds a place there. -/
theorem makeReady_ne_error (formed : kernel.ready.WellFormed) {place : Fin n} :
    makeReady place kernel ≠ .error fault after := by
  intro failed
  obtain ⟨ready, inserted, -⟩ := formed.insert kernel.rank place
  cases inserted.symm.trans (makeReady_error_iff.mp failed).1

/-- What is done after a task was made ready fails by itself, with the list still in order. -/
theorem makeReady_bind_error {α : Type} {place : Fin n} {next : KernelM width M S n α}
    (formed : kernel.ready.WellFormed) (failed : (do makeReady place; next) kernel = .error fault after) :
    ∃ ready, ready.WellFormed ∧ next { kernel with ready := ready } = .error fault after := by
  rcases bind_error_iff.mp failed with failed | ⟨_, _, came, failed⟩
  · exact absurd failed (makeReady_ne_error formed)
  · obtain ⟨ready, inserted, rfl⟩ := makeReady_ok_iff.mp came
    exact ⟨ready, (formed.of_insert inserted).1, failed⟩

/-! ## Scheduling -/

section Schedule

variable [Machine M S]

theorem serveInterrupt_ne_error (formed : kernel.ready.WellFormed) : serveInterrupt kernel ≠ .error fault after := by
  intro failed
  simp only [serveInterrupt, bind_error_iff, get_error_iff, get_ok_iff, false_or] at failed
  obtain ⟨_, _, ⟨rfl, rfl⟩, failed⟩ := failed
  obtain none | ⟨place, isInterruptTask⟩ := Option.eq_none_or_eq_some kernel.interruptTask
  · rw [none] at failed
    exact pure_error_iff.mp failed
  · rw [isInterruptTask] at failed
    dsimp only at failed
    split at failed
    · simp only [bind_error_iff, modify_error_iff, modify_ok_iff, false_or] at failed
      obtain ⟨_, _, rfl, failed⟩ := failed
      have formedAfter : (kernel.record (.interruptTaskReady (.ofIndex place))).ready.WellFormed := formed
      exact makeReady_ne_error formedAfter failed
    · exact pure_error_iff.mp failed

theorem poll_ne_error (formed : kernel.ready.WellFormed) : poll kernel ≠ .error fault after := by
  intro failed
  simp only [poll, bind_error_iff, get_error_iff, pure_error_iff, and_false, exists_false, or_false] at failed
  exact serveInterrupt_ne_error formed failed

/-- A machine that was asked to sleep while no task was ready, and failed to. -/
structure Overslept (before : Kernel width M S n) (fault : Fault) (after : Kernel width M S n) : Prop where
  headless : before.ready.head = none
  slept : ∃ machine, Slept before.machine machine ∧ Machine.idle machine = .error fault after.machine
  after_eq : after = { before with machine := after.machine, trace := after.trace }

theorem sleep_error (failed : sleep kernel = .error fault after) :
    Machine.idle kernel.machine = .error fault after.machine ∧
      after = { kernel with machine := after.machine, trace := after.trace } := by
  simp only [sleep, bind_error_iff, modify_error_iff, modify_ok_iff, onMachine_error_iff, false_or] at failed
  obtain ⟨_, _, rfl, machine, failed, rfl⟩ := failed
  exact ⟨failed, rfl⟩

/-- A poll that found nobody left the list as it was. -/
theorem poll_headless {middle : Kernel width M S n} (polled : poll kernel = .ok none middle) :
    kernel.ready.head = none ∧ middle = { kernel with trace := middle.trace } := by
  obtain ⟨headEq, served, middleEq⟩ := poll_ok polled
  have sameReady : middle.ready = kernel.ready := served.eq_of_headless headEq
  rw [sameReady] at headEq middleEq
  exact ⟨headEq, middleEq⟩

/-- A poll, and a sleep if it found nobody, fail only in the sleep; what comes after the sleep can fail, too. -/
theorem poll_sleep_error {next : KernelM width M S n (Fin n)} (formed : kernel.ready.WellFormed)
    (failed : (do
      match ← poll with
      | some place => pure place
      | none => do
          sleep
          next : KernelM width M S n (Fin n)) kernel = .error fault after) :
    Overslept kernel fault after ∨
      kernel.ready.head = none ∧ ∃ awake, Machine.idle kernel.machine = .ok () awake.machine ∧
        awake = { kernel with machine := awake.machine, trace := awake.trace } ∧ next awake = .error fault after := by
  rcases bind_error_iff.mp failed with failed | ⟨head, middle, polled, failed⟩
  · exact absurd failed (poll_ne_error formed)
  cases head with
  | some place => exact (pure_error_iff.mp failed).elim
  | none =>
    obtain ⟨headless, middleEq⟩ := poll_headless polled
    rcases bind_error_iff.mp failed with asleep | ⟨_, awake, slept, failed⟩
    · obtain ⟨failed, afterEq⟩ := sleep_error asleep
      rw [middleEq] at failed afterEq
      exact .inl ⟨headless, ⟨_, .awake _, failed⟩, afterEq⟩
    · obtain ⟨idled, awakeEq⟩ := sleep_ok slept
      rw [middleEq] at idled awakeEq
      exact .inr ⟨headless, awake, idled, awakeEq, failed⟩

/-- Waiting for a task to be ready fails only with the machine. The count cannot run out, since every sleep that comes
back leaves fewer of them to come. -/
theorem awaitReady_error {left : Nat} (formed : kernel.ready.WellFormed)
    (enough : Machine.wakeups kernel.machine ≤ left) (failed : awaitReady left kernel = .error fault after) :
    Overslept kernel fault after := by
  induction left generalizing kernel with
  | zero =>
    rcases poll_sleep_error formed failed with overslept | ⟨-, awake, idled, -, -⟩
    · exact overslept
    · have fewer := Machine.wakeups_idle _ _ idled
      omega
  | succ left ih =>
    rcases poll_sleep_error formed failed with overslept | ⟨headless, awake, idled, awakeEq, failed⟩
    · exact overslept
    · have fewer := Machine.wakeups_idle _ _ idled
      have formedAwake : awake.ready.WellFormed := by
        rw [awakeEq]
        exact formed
      obtain ⟨-, ⟨last, later, failed⟩, afterEq⟩ := ih formedAwake (by omega) failed
      rw [awakeEq] at afterEq
      exact ⟨headless, ⟨last, .idled idled later, failed⟩, afterEq⟩

theorem schedule_error (formed : kernel.ready.WellFormed) (failed : schedule kernel = .error fault after) :
    Overslept kernel fault after := by
  simp only [schedule, bind_error_iff, get_error_iff, get_ok_iff, modify_error_iff, pure_error_iff, false_or, and_false,
    exists_false, or_false] at failed
  obtain ⟨_, _, ⟨rfl, rfl⟩, failed⟩ := failed
  exact awaitReady_error formed (Nat.le_refl _) failed

/-- A machine that failed to build a context. -/
def Unbuilt (fault : Fault) (after : M) : Prop :=
  ∃ (id : TaskId) (desc : TaskDesc) (before : M), Machine.buildContext id desc before = .error fault after

/-- A machine that failed to change the address space. -/
def Unswitched (fault : Fault) (after : M) : Prop :=
  ∃ (prev next : TaskId) (before : M), Machine.switchSpace prev next before = .error fault after

/-- All ways in which something that happens to a kernel can fail. -/
inductive Failed (kernel : Kernel width M S n) (fault : Fault) (after : Kernel width M S n) : Prop
  | nobodyRuns (absent : kernel.current = none)
  | unscheduled {before : Kernel width M S n} (formed : before.ready.WellFormed)
      (failed : schedule before = .error fault after)
  | unbuilt (unbuilt : Unbuilt fault after.machine)
  | unswitched (unswitched : Unswitched fault after.machine)

theorem yieldTask_error (formed : kernel.ready.WellFormed) (failed : yieldTask kernel = .error fault after) :
    Failed kernel fault after := by
  rcases bind_error_iff.mp failed with failed | ⟨place, _, called, failed⟩
  · exact .nobodyRuns (caller_error_iff.mp failed).1
  obtain ⟨-, rfl⟩ := caller_ok_iff.mp called
  simp only [bind_error_iff, modify_error_iff, modify_ok_iff, false_or] at failed
  obtain ⟨_, _, rfl, _, _, rfl, failed⟩ := failed
  have formedRemoved : (kernel.ready.remove place).WellFormed := formed.remove place
  obtain ⟨ready, formedAfter, failed⟩ := makeReady_bind_error formedRemoved (bind_error_iff.mpr failed)
  exact .unscheduled formedAfter failed

theorem exit_error (formed : kernel.ready.WellFormed) (failed : exit kernel = .error fault after) :
    Failed kernel fault after := by
  rcases bind_error_iff.mp failed with failed | ⟨place, _, called, failed⟩
  · exact .nobodyRuns (caller_error_iff.mp failed).1
  obtain ⟨-, rfl⟩ := caller_ok_iff.mp called
  simp only [bind_error_iff, modify_error_iff, modify_ok_iff, false_or] at failed
  obtain ⟨_, _, rfl, _, _, rfl, _, _, rfl, failed⟩ := failed
  have formedRemoved : (kernel.ready.remove place).WellFormed := formed.remove place
  exact .unscheduled formedRemoved failed

/-- The end of a wait: only its scheduling pass can fail. -/
theorem wait_pass_error {middle : Kernel width M S n} {event : Bool → Event} {blocked : Bool}
    (formed : middle.ready.WellFormed)
    (failed : (do
      let blocked ← pure blocked
      modify (·.record (event blocked))
      let next ← schedule
      pure (.ok (), next) : KernelM width M S n (Except MailError Unit × Fin n)) middle = .error fault after) :
    Failed kernel fault after := by
  simp only [bind_error_iff, pure_error_iff, pure_ok_iff, modify_error_iff, modify_ok_iff, false_or, and_false,
    exists_false, or_false] at failed
  obtain ⟨_, _, ⟨rfl, rfl⟩, _, _, rfl, failed⟩ := failed
  have formedRecorded : (middle.record (event blocked)).ready.WellFormed := formed
  exact .unscheduled formedRecorded failed

/-- What a wait does about the list and the waiting mask cannot fail, and leaves the list in order. -/
theorem wait_error {mask : TaskMask} (formed : kernel.ready.WellFormed) (failed : wait mask kernel = .error fault after) :
    Failed kernel fault after := by
  rcases bind_error_iff.mp failed with failed | ⟨place, _, called, failed⟩
  · exact .nobodyRuns (caller_error_iff.mp failed).1
  obtain ⟨-, rfl⟩ := caller_ok_iff.mp called
  have formedRemoved : (kernel.ready.remove place).WellFormed := formed.remove place
  rcases bind_error_iff.mp failed with failed | ⟨_, _, looked, failed⟩
  · exact (get_error_iff.mp failed).elim
  obtain ⟨rfl, rfl⟩ := get_ok_iff.mp looked
  rcases bind_error_iff.mp failed with failed | ⟨_, _, removed, failed⟩
  · exact (modify_error_iff.mp failed).elim
  cases modify_ok_iff.mp removed
  split at failed
  · obtain ⟨ready, formedAfter, failed⟩ := makeReady_bind_error formedRemoved failed
    exact wait_pass_error formedAfter failed
  · simp only [bind_error_iff, get_error_iff, get_ok_iff, modify_error_iff, modify_ok_iff, false_or] at failed
    obtain ⟨_, _, rfl, _, _, ⟨rfl, rfl⟩, failed⟩ := failed
    split at failed
    · obtain ⟨ready, formedAfter, failed⟩ := makeReady_bind_error formedRemoved failed
      exact wait_pass_error formedAfter failed
    · exact wait_pass_error formedRemoved failed

end Schedule

/-! ## Mail -/

theorem deliver_ne_error {sender receiver : Fin n} {message : Message width} (formed : kernel.ready.WellFormed) :
    deliver sender receiver message kernel ≠ .error fault after := by
  intro failed
  simp only [deliver, bind_error_iff, get_error_iff, get_ok_iff, false_or] at failed
  obtain ⟨_, _, ⟨rfl, rfl⟩, failed⟩ := failed
  split at failed
  · cases pushed : (kernel.taskAt receiver).mailbox.push ⟨.ofIndex sender, message⟩ with
    | error error =>
      rw [pushed] at failed
      exact pure_error_iff.mp failed
    | ok box =>
      rw [pushed] at failed
      simp only [bind_error_iff, modify_error_iff, modify_ok_iff, false_or] at failed
      obtain ⟨_, _, rfl, failed⟩ := failed
      have formedPosted : (kernel.setMailbox receiver box).ready.WellFormed := formed
      split at failed
      · obtain ⟨ready, -, failed⟩ := makeReady_bind_error formedPosted failed
        exact pure_error_iff.mp failed
      · exact pure_error_iff.mp failed
  · exact pure_error_iff.mp failed

theorem broadcast_ne_error {sender : Fin n} {message : Message width} {places : List (Fin n)}
    {sofar : Except MailError Unit} (formed : kernel.ready.WellFormed) :
    broadcast sender message sofar places kernel ≠ .error fault after := by
  induction places generalizing kernel sofar with
  | nil => exact fun failed => pure_error_iff.mp failed
  | cons receiver rest ih =>
    rw [broadcast]
    split
    · exact ih formed
    · intro failed
      rcases bind_error_iff.mp failed with failed | ⟨result, middle, delivered, failed⟩
      · exact deliver_ne_error formed failed
      · exact ih ((deliver_ok delivered).admits formed).1 failed

/-- A send fails only for want of a sender. -/
theorem send_error {receiver : TaskId} {message : Message width} (formed : kernel.ready.WellFormed)
    (failed : send receiver message kernel = .error fault after) : kernel.current = none := by
  rcases bind_error_iff.mp failed with failed | ⟨sender, _, called, failed⟩
  · exact (caller_error_iff.mp failed).1
  obtain ⟨-, rfl⟩ := caller_ok_iff.mp called
  exfalso
  split at failed
  · simp only [bind_error_iff, modify_error_iff, pure_error_iff, and_false, exists_false, or_false] at failed
    exact broadcast_ne_error formed failed
  · cases named : receiver.within n with
    | some place =>
      rw [named] at failed
      simp only [bind_error_iff, modify_error_iff, pure_error_iff, and_false, exists_false, or_false] at failed
      exact deliver_ne_error formed failed
    | none =>
      rw [named] at failed
      simp only [bind_error_iff, modify_error_iff, pure_error_iff, and_false, exists_false, or_false] at failed

theorem send_comes_back {receiver : TaskId} {sender : Fin n} (formed : kernel.ready.WellFormed)
    (isCaller : kernel.current = some sender) (message : Message width) :
    ∃ result after, send receiver message kernel = .ok result after := by
  cases came : send receiver message kernel with
  | error fault after => cases (send_error formed came).symm.trans isCaller
  | ok result after => exact ⟨result, after, rfl⟩

/-- A receive fails only for want of a receiver. -/
theorem receive_error (failed : receive kernel = .error fault after) : kernel.current = none := by
  rcases bind_error_iff.mp failed with failed | ⟨place, _, called, failed⟩
  · exact (caller_error_iff.mp failed).1
  obtain ⟨-, rfl⟩ := caller_ok_iff.mp called
  exfalso
  simp only [bind_error_iff, get_error_iff, get_ok_iff, false_or] at failed
  obtain ⟨_, _, ⟨rfl, rfl⟩, failed⟩ := failed
  cases taken : (kernel.taskAt place).mailbox.take (kernel.taskAt place).waiting with
  | ok found =>
    rw [taken] at failed
    simp only [bind_error_iff, modify_error_iff, pure_error_iff, and_false, exists_false, or_false] at failed
  | error error =>
    rw [taken] at failed
    simp only [bind_error_iff, modify_error_iff, pure_error_iff, and_false, exists_false, or_false] at failed

theorem receive_comes_back {receiver : Fin n} (isCaller : kernel.current = some receiver) :
    ∃ result after, receive kernel = .ok result after := by
  cases came : receive kernel with
  | error fault after => cases (receive_error came).symm.trans isCaller
  | ok result after => exact ⟨result, after, rfl⟩

/-! ## Starting tasks -/

section Lifecycle

variable [Machine M S]

theorem rebuildContext_error {place : Fin n} (failed : rebuildContext place kernel = .error fault after) :
    Unbuilt fault after.machine := by
  simp only [rebuildContext, bind_error_iff, get_error_iff, get_ok_iff, modify_error_iff, onMachine_error_iff, false_or,
    and_false, exists_false, or_false] at failed
  obtain ⟨_, _, ⟨rfl, rfl⟩, machine, failed, rfl⟩ := failed
  exact ⟨_, _, _, failed⟩

/-- A task is started unless the machine cannot build its context. -/
theorem startTask_error {place : Fin n} {settled : Fin n → Prop} {order : List (Fin n)}
    (threads : kernel.ready.Threads settled order) (absent : place ∉ order)
    (failed : startTask place kernel = .error fault after) : Unbuilt fault after.machine := by
  simp only [startTask, bind_error_iff, modify_error_iff, modify_ok_iff, false_or] at failed
  obtain ⟨_, _, rfl, failed | ⟨_, rebuilt, came, failed⟩⟩ := failed
  · exact rebuildContext_error failed
  · simp only [rebuildContext, bind_ok_iff, get_ok_iff, modify_ok_iff, onMachine_ok_iff] at came
    obtain ⟨_, _, ⟨rfl, rfl⟩, context, _, ⟨machine, -, rfl⟩, rfl⟩ := came
    obtain ⟨stuck, -⟩ := makeReady_error_iff.mp failed
    obtain ⟨ready, inserted, -⟩ := (threads.isolate absent).insert (.inl rfl)
    cases inserted.symm.trans stuck

/-- Starting tasks, none of which is settled yet, fails only with the machine. -/
theorem startTasks_error {places order : List (Fin n)} {settled : Fin n → Prop} (nodup : places.Nodup)
    (threads : kernel.ready.Threads settled order) (unsettled : ∀ place ∈ places, ¬settled place)
    (failed : startTasks places kernel = .error fault after) : Unbuilt fault after.machine := by
  induction places generalizing kernel order settled with
  | nil => exact (pure_error_iff.mp failed).elim
  | cons place rest ih =>
    obtain ⟨fresh, nodupRest⟩ := List.nodup_cons.mp nodup
    have absent : place ∉ order := fun member =>
      unsettled place (List.mem_cons_self ..) (threads.settled_of_mem place member)
    simp only [startTasks, bind_error_iff, get_error_iff, get_ok_iff, false_or] at failed
    obtain ⟨_, _, ⟨rfl, rfl⟩, failed⟩ := failed
    cases empty : (kernel.desc place).firstEmpty with
    | some kind =>
      rw [empty] at failed
      exact (pure_error_iff.mp failed).elim
    | none =>
      rw [empty] at failed
      rcases bind_error_iff.mp failed with failed | ⟨_, middle, came, failed⟩
      · exact startTask_error threads absent failed
      · have started := startTask_ok came
        have unsettledRest (other : Fin n) (later : other ∈ rest) : ¬(other = place ∨ settled other) := by
          rintro (rfl | early)
          · exact fresh later
          · exact unsettled other (List.mem_cons_of_mem _ later) early
        exact ih nodupRest (started.threads threads absent) unsettledRest failed

theorem switchTo_error {prev : TaskId} {next : Fin n} (failed : switchTo prev next kernel = .error fault after) :
    Unswitched fault after.machine := by
  simp only [switchTo, bind_error_iff, modify_error_iff, modify_ok_iff, onMachine_error_iff, false_or, and_false,
    exists_false, or_false] at failed
  obtain ⟨_, _, rfl, machine, failed, rfl⟩ := failed
  exact ⟨_, _, _, failed⟩

/-- Starting every task fails only with the machine, if there is a task. -/
theorem init_error (bootable : kernel.Bootable) (failed : init kernel = .error fault after) (occupied : 0 < n) :
    Unbuilt fault after.machine ∨ Unswitched fault after.machine := by
  simp only [init, bind_error_iff, modify_error_iff, modify_ok_iff, false_or] at failed
  obtain ⟨_, _, rfl, failed | ⟨outcome, started, came, failed⟩⟩ := failed
  · have unsettled : ∀ place ∈ List.finRange n, ¬False := fun _ _ impossible => impossible
    exact .inl (startTasks_error (List.nodup_finRange n) kernel.ready.threads_clear unsettled failed)
  obtain ⟨rfl, -, -, formed, -, full⟩ := startTasks_all_ok bootable came
  simp only [bind_error_iff, modify_error_iff, modify_ok_iff, pure_error_iff, false_or, and_false, exists_false,
    or_false] at failed
  rcases failed with failed | ⟨first, _, -, _, _, rfl, failed⟩
  · -- with every task ready there is no reason to sleep
    have headless := (schedule_error formed failed).headless
    rw [formed.head_eq, List.head?_eq_none_iff] at headless
    have member := full ⟨0, occupied⟩
    rw [headless] at member
    exact absurd member List.not_mem_nil
  · exact .inr (switchTo_error failed)

theorem restart_error {id : TaskId} (formed : kernel.ready.WellFormed)
    (failed : restart id kernel = .error fault after) : Failed kernel fault after := by
  unfold restart at failed
  cases named : id.within n with
  | none =>
    rw [named] at failed
    exact (pure_error_iff.mp failed).elim
  | some place =>
    rw [named] at failed
    simp only [bind_error_iff, modify_error_iff, modify_ok_iff, pure_error_iff, false_or, and_false, exists_false,
      or_false] at failed
    obtain ⟨_, _, rfl, _, _, rfl, failed⟩ := failed
    have threads : (kernel.ready.remove place).Threads (fun _ => True) (kernel.ready.toList.erase place) :=
      ReadyList.Threads.remove formed trivial
    have absent : place ∉ kernel.ready.toList.erase place := formed.nodup.not_mem_erase
    rcases failed with failed | ⟨_, started, came, failed⟩
    · exact .unbuilt (startTask_error threads absent failed)
    · exact .unscheduled ((startTask_ok came).threads_over formed).wellFormed failed

/-! ## Calls -/

theorem perform_error {call : Call width} (bootable : kernel.Bootable) (formed : kernel.ready.WellFormed)
    (direct : call ≠ .trap) (failed : perform call kernel = .error fault after) : Failed kernel fault after := by
  cases call <;> simp only [perform, bind_error_iff, pure_error_iff, and_false, exists_false, or_false] at failed
  case trap => exact absurd rfl direct
  case init =>
    by_cases occupied : 0 < n
    · rcases init_error bootable failed occupied with unbuilt | unswitched
      · exact .unbuilt unbuilt
      · exact .unswitched unswitched
    · refine .nobodyRuns (Option.eq_none_iff_forall_ne_some.mpr fun place _ => ?_)
      exact occupied (Nat.lt_of_le_of_lt (Nat.zero_le _) place.isLt)
  case wait => exact wait_error formed failed
  case yield => exact yieldTask_error formed failed
  case exit => exact exit_error formed failed
  case schedule => exact .unscheduled formed failed
  case send => exact .nobodyRuns (send_error formed failed)
  case receive => exact .nobodyRuns (receive_error failed)
  case restart => exact restart_error formed failed

/-- A trap fails when the call that it asks for does, when the registers of a task that exited cannot be made, or when
the processor cannot be handed over. -/
theorem trap_error (bootable : kernel.Bootable) (formed : kernel.ready.WellFormed)
    (failed : trap kernel = .error fault after) : Failed kernel fault after := by
  obtain absent | ⟨place, isCaller⟩ := Option.eq_none_or_eq_some kernel.current
  · exact .nobodyRuns absent
  rw [trap_eq isCaller] at failed
  rcases bind_error_iff.mp failed with failed | ⟨next, served, -, failed⟩
  · cases asks : kernel.asked place with
    | none => cases (serve_unknown asks).symm.trans failed
    | some syscall =>
      rw [serve_eq asks] at failed
      simp only [bind_error_iff, pure_error_iff, and_false, exists_false, or_false] at failed
      rcases failed with failed | ⟨result, middle, -, failed⟩
      · exact perform_error bootable formed (Syscall.call_ne_trap _ _ _) failed
      · cases syscall with
        | exit => exact .unbuilt (rebuildContext_error failed)
        | _ => exact (modify_error_iff.mp failed).elim
  · split at failed
    · simp only [bind_error_iff, pure_error_iff, and_false, exists_false, or_false] at failed
      exact .unswitched (switchTo_error failed)
    · exact (pure_error_iff.mp failed).elim

/-- Whatever happens to an orderly kernel fails in one of these ways, or comes back. -/
theorem act_error {action : Action width M S n} (bootable : kernel.Bootable) (formed : kernel.ready.WellFormed)
    (failed : act action kernel = .error fault after) : Failed kernel fault after := by
  cases action with
  | load place change =>
    simp only [act, bind_error_iff, modify_error_iff, pure_error_iff, and_false, exists_false, or_false] at failed
  | outside change =>
    simp only [act, bind_error_iff, modify_error_iff, pure_error_iff, and_false, exists_false, or_false] at failed
  | call call =>
    simp only [act, bind_error_iff, pure_error_iff, and_false, exists_false, or_false] at failed
    by_cases direct : call = .trap
    · rw [direct] at failed
      simp only [perform, bind_error_iff, pure_error_iff, and_false, exists_false, or_false] at failed
      exact trap_error bootable formed failed
    · exact perform_error bootable formed direct failed

end Lifecycle

end Kernel

end CoopKernel
