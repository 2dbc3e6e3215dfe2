import CoopKernel.Proofs.Kernel.Run

/-! # One kernel on two machines

Two kernels are `Paired` if they agree on everything but saved registers and machine, and their machines
are alike. What makes machines alike is left open: it has to be kept by the steps that the kernel asks of
them, which have to come back on the second machine when they do on the first (`Twins`). Then every
operation of the kernel that comes back on the first machine comes back on the second with the same answer,
and leaves the kernels paired. A step that does so is one that `Follows`; the lemmas below go through the
operations, and say so of each.
-/

namespace CoopKernel

variable {width : Width} {M S M' S' : Type} {n : Nat} {alike : M → M' → Prop} {table : Fin n → TaskDesc}

/-- What a notion of alike machines has to be for kernels on a table: an interrupt is pending on both or on neither, and
what the first machine does without a fault, the second does, too. -/
structure Twins [Machine M S] [Machine M' S'] (alike : M → M' → Prop) (table : Fin n → TaskDesc) : Prop where
  pending : ∀ {one other}, alike one other → Machine.interruptPending one = Machine.interruptPending other
  idle : ∀ {one other after}, alike one other → Machine.idle one = .ok () after →
    ∃ later, Machine.idle other = .ok () later ∧ alike after later
  build : ∀ {one other after context} (place : Fin n), alike one other →
    Machine.buildContext (.ofIndex place) (table place) one = .ok context after →
    ∃ built later, Machine.buildContext (.ofIndex place) (table place) other = .ok built later ∧ alike after later
  switch : ∀ {one other after} (prev : TaskId) (next : Fin n), alike one other →
    Machine.switchSpace prev (.ofIndex next) one = .ok () after →
    ∃ later, Machine.switchSpace prev (.ofIndex next) other = .ok () later ∧ alike after later
  name : ∀ {one other} (id : TaskId), alike one other → alike (Machine.setCurrent id one) (Machine.setCurrent id other)

namespace Kernel

/-- Kernels on a table that agree but for saved registers, on machines that are alike. -/
structure Paired (alike : M → M' → Prop) (table : Fin n → TaskDesc) (kernel : Kernel width M S n)
    (other : Kernel width M' S' n) : Prop where
  desc_eq : kernel.desc = table
  core_eq : other.core = kernel.core
  trace_eq : other.trace = kernel.trace
  machines : alike kernel.machine other.machine

/-- From two paired kernels on, the second step comes back if the first does, with the same answer, and leaves the
kernels paired. -/
def Follows {α : Type} (alike : M → M' → Prop) (table : Fin n → TaskDesc) (kernel : Kernel width M S n)
    (other : Kernel width M' S' n) (step : KernelM width M S n α) (follower : KernelM width M' S' n α) : Prop :=
  ∀ answer after, step kernel = .ok answer after →
    ∃ later, follower other = .ok answer later ∧ Paired alike table after later

variable {kernel after : Kernel width M S n} {other later : Kernel width M' S' n} {place : Fin n}

namespace Paired

theorem ready_eq (paired : Paired alike table kernel other) : other.ready = kernel.ready :=
  congrArg Core.ready paired.core_eq

theorem current_eq (paired : Paired alike table kernel other) : other.current = kernel.current :=
  congrArg Core.current paired.core_eq

theorem interruptTask_eq (paired : Paired alike table kernel other) : other.interruptTask = kernel.interruptTask :=
  congrArg Core.interruptTask paired.core_eq

theorem otherDesc_eq (paired : Paired alike table kernel other) : other.desc = kernel.desc :=
  congrArg Core.desc paired.core_eq

theorem rank_eq (paired : Paired alike table kernel other) : other.rank = kernel.rank := by
  funext place
  rw [rank, paired.otherDesc_eq, rank]

theorem waiting_eq (paired : Paired alike table kernel other) (place : Fin n) :
    (other.taskAt place).waiting = (kernel.taskAt place).waiting :=
  congrFun (congrArg Core.waiting paired.core_eq) place

theorem mailbox_eq (paired : Paired alike table kernel other) (place : Fin n) :
    (other.taskAt place).mailbox = (kernel.taskAt place).mailbox :=
  congrFun (congrArg Core.mailbox paired.core_eq) place

theorem changeTask (paired : Paired alike table kernel other) {change : Task width S → Task width S}
    {change' : Task width S' → Task width S'} (keeps : ∀ task, (change task).desc = task.desc)
    (keeps' : ∀ task, (change' task).desc = task.desc)
    (waits : ∀ task task', task'.waiting = task.waiting → (change' task').waiting = (change task).waiting)
    (boxes : ∀ task task', task'.mailbox = task.mailbox → (change' task').mailbox = (change task).mailbox)
    (place : Fin n) : Paired alike table (kernel.changeTask place change) (other.changeTask place change') := by
  refine ⟨(desc_changeTask keeps place).trans paired.desc_eq, ?_, paired.trace_eq, paired.machines⟩
  rw [core, core, Core.mk.injEq]
  refine ⟨?_, ?_, ?_, paired.ready_eq, paired.current_eq, paired.interruptTask_eq⟩
  · rw [desc_changeTask keeps, desc_changeTask keeps', paired.otherDesc_eq]
  · funext target
    rw [taskAt_changeTask, taskAt_changeTask]
    split
    · exact waits _ _ (paired.waiting_eq place)
    · exact paired.waiting_eq target
  · funext target
    rw [taskAt_changeTask, taskAt_changeTask]
    split
    · exact boxes _ _ (paired.mailbox_eq place)
    · exact paired.mailbox_eq target

theorem changeContext (paired : Paired alike table kernel other) (place : Fin n) (change : S → S)
    (change' : S' → S') :
    Paired alike table (kernel.changeContext place change) (other.changeContext place change') := by
  unfold Kernel.changeContext
  apply paired.changeTask
  · exact fun _ => rfl
  · exact fun _ => rfl
  · exact fun _ _ same => same
  · exact fun _ _ same => same

theorem setWaiting (paired : Paired alike table kernel other) (place : Fin n) (mask : TaskMask) :
    Paired alike table (kernel.setWaiting place mask) (other.setWaiting place mask) := by
  unfold Kernel.setWaiting
  apply paired.changeTask
  · exact fun _ => rfl
  · exact fun _ => rfl
  · exact fun _ _ _ => rfl
  · exact fun _ _ same => same

theorem setMailbox (paired : Paired alike table kernel other) (place : Fin n) (box : Mailbox width) :
    Paired alike table (kernel.setMailbox place box) (other.setMailbox place box) := by
  unfold Kernel.setMailbox
  apply paired.changeTask
  · exact fun _ => rfl
  · exact fun _ => rfl
  · exact fun _ _ same => same
  · exact fun _ _ _ => rfl

theorem arrange (paired : Paired alike table kernel other) {ready ready' : ReadyList n} {current current' : Option (Fin n)}
    (sameReady : ready' = ready) (sameCurrent : current' = current) :
    Paired alike table { kernel with ready := ready, current := current }
      { other with ready := ready', current := current' } := by
  subst sameReady sameCurrent
  refine ⟨paired.desc_eq, ?_, paired.trace_eq, paired.machines⟩
  rw [core, core, Core.mk.injEq]
  exact ⟨paired.otherDesc_eq, funext paired.waiting_eq, funext paired.mailbox_eq, rfl, rfl, paired.interruptTask_eq⟩

theorem unready (paired : Paired alike table kernel other) (place : Fin n) :
    Paired alike table (kernel.unready place) (other.unready place) :=
  paired.arrange (congrArg (ReadyList.remove · place) paired.ready_eq) paired.current_eq

theorem resetTask (paired : Paired alike table kernel other) (place : Fin n) :
    Paired alike table (kernel.resetTask place) (other.resetTask place) := by
  unfold Kernel.resetTask
  have isolated := paired.arrange (congrArg (ReadyList.isolate · place) paired.ready_eq) paired.current_eq
  apply isolated.changeTask
  · exact fun _ => rfl
  · exact fun _ => rfl
  · exact fun _ _ _ => rfl
  · exact fun _ _ _ => rfl

theorem record (paired : Paired alike table kernel other) (event : Event) :
    Paired alike table (kernel.record event) (other.record event) := by
  refine ⟨paired.desc_eq, paired.core_eq, ?_, paired.machines⟩
  change other.trace.record event = kernel.trace.record event
  rw [paired.trace_eq]

theorem setMachine (paired : Paired alike table kernel other) {machine : M} {machine' : M'}
    (machines : alike machine machine') :
    Paired alike table { kernel with machine := machine } { other with machine := machine' } :=
  ⟨paired.desc_eq, paired.core_eq, paired.trace_eq, machines⟩

/-- Kernels that are made from one table on machines that are alike. -/
theorem of_new [Machine M S] [Machine M' S'] {table : Vector TaskDesc n} {interruptTask : TaskId} {machine : M}
    {machine' : M'} (machines : alike machine machine') (made : Kernel.new table interruptTask machine = .ok kernel) :
    ∃ other, Kernel.new table interruptTask machine' = .ok other ∧ Paired alike table.get kernel other := by
  have task {S : Type} (blank : S) (place : Fin n) :
      (table.map fun desc => (⟨desc, blank, .empty, .empty⟩ : Task width S)).get place =
        ⟨table.get place, blank, .empty, .empty⟩ :=
    Vector.getElem_map ..
  unfold Kernel.new at made ⊢
  split at made
  · next fits =>
    cases placed : interruptPlace n interruptTask with
    | error error =>
      rw [placed] at made
      cases made
    | ok place =>
      rw [placed] at made
      cases made
      rw [dif_pos fits]
      refine ⟨_, rfl, ?_, ?_, rfl, machines⟩
      · funext place
        rw [desc, taskAt, task]
      · rw [core, core, Core.mk.injEq]
        refine ⟨?_, ?_, ?_, rfl, rfl, rfl⟩ <;> funext place
        · rw [desc, taskAt, task, desc, taskAt, task]
        · rw [taskAt, task, taskAt, task]
        · rw [taskAt, task, taskAt, task]
  · cases made

end Paired

/-! ## Steps that follow -/

section Follows

variable {α β : Type} {step : KernelM width M S n α} {follower : KernelM width M' S' n α}

theorem follows_pure (paired : Paired alike table kernel other) (answer : α) :
    Follows alike table kernel other (pure answer) (pure answer) := by
  intro result after came
  obtain ⟨rfl, rfl⟩ := pure_ok_iff.mp came
  exact ⟨other, rfl, paired⟩

theorem Follows.bind {next : α → KernelM width M S n β} {next' : α → KernelM width M' S' n β}
    (first : Follows alike table kernel other step follower)
    (rest : ∀ value middle middle', Paired alike table middle middle' →
      Follows alike table middle middle' (next value) (next' value)) :
    Follows alike table kernel other (step >>= next) (follower >>= next') := by
  intro answer after came
  obtain ⟨value, middle, came, ended⟩ := bind_ok_iff.mp came
  obtain ⟨middle', came', paired⟩ := first value middle came
  obtain ⟨later, ended', pairedLater⟩ := rest value middle middle' paired answer after ended
  exact ⟨later, bind_ok_iff.mpr ⟨value, middle', came', ended'⟩, pairedLater⟩

theorem follows_get {next : Kernel width M S n → KernelM width M S n β}
    {next' : Kernel width M' S' n → KernelM width M' S' n β}
    (rest : Follows alike table kernel other (next kernel) (next' other)) :
    Follows alike table kernel other (get >>= next) (get >>= next') := rest

theorem follows_modify {change : Kernel width M S n → Kernel width M S n}
    {change' : Kernel width M' S' n → Kernel width M' S' n} (changed : Paired alike table (change kernel) (change' other)) :
    Follows alike table kernel other (modify change) (modify change') := by
  intro answer after came
  cases modify_ok_iff.mp came
  exact ⟨change' other, rfl, changed⟩

theorem follows_caller (paired : Paired alike table kernel other) : Follows alike table kernel other caller caller := by
  intro place after came
  obtain ⟨isCaller, rfl⟩ := caller_ok_iff.mp came
  exact ⟨other, caller_ok_iff.mpr ⟨paired.current_eq.trans isCaller, rfl⟩, paired⟩

theorem follows_makeReady (paired : Paired alike table kernel other) (place : Fin n) :
    Follows alike table kernel other (makeReady place) (makeReady place) := by
  intro answer after came
  obtain ⟨ready, inserted, rfl⟩ := makeReady_ok_iff.mp came
  rw [← paired.ready_eq, ← paired.rank_eq] at inserted
  exact ⟨_, makeReady_ok_iff.mpr ⟨ready, inserted, rfl⟩, paired.arrange rfl paired.current_eq⟩

theorem follows_onMachine (paired : Paired alike table kernel other) {asked : EStateM Fault M α}
    {asked' : EStateM Fault M' α}
    (machines : ∀ answer after, asked kernel.machine = .ok answer after →
      ∃ later, asked' other.machine = .ok answer later ∧ alike after later) :
    Follows alike table kernel other (onMachine asked) (onMachine asked') := by
  intro answer after came
  obtain ⟨machine, asks, rfl⟩ := onMachine_ok_iff.mp came
  obtain ⟨machine', came', same⟩ := machines answer machine asks
  exact ⟨_, onMachine_ok_iff.mpr ⟨machine', came', rfl⟩, paired.setMachine same⟩

end Follows

/-! ## Scheduling -/

section Schedule

variable [Machine M S] [Machine M' S'] (twins : Twins alike table)

include twins

theorem follows_serveInterrupt (paired : Paired alike table kernel other) :
    Follows alike table kernel other serveInterrupt serveInterrupt := by
  apply follows_get
  rw [paired.interruptTask_eq, paired.ready_eq, ← twins.pending paired.machines]
  cases kernel.interruptTask with
  | none => exact follows_pure paired ()
  | some place =>
    dsimp only
    split
    · exact (follows_modify (paired.record _)).bind fun _ _ _ recorded => follows_makeReady recorded place
    · exact follows_pure paired ()

theorem follows_poll (paired : Paired alike table kernel other) : Follows alike table kernel other poll poll := by
  apply (follows_serveInterrupt twins paired).bind
  intro _ middle middle' served
  apply follows_get
  rw [served.ready_eq]
  exact follows_pure served _

theorem follows_sleep (paired : Paired alike table kernel other) : Follows alike table kernel other sleep sleep := by
  apply (follows_modify (paired.record .idle)).bind
  intro _ middle middle' recorded
  apply follows_onMachine recorded
  intro _ after idled
  exact twins.idle recorded.machines idled

/-- The second machine has as many sleeps left as it needs: it comes back from every sleep from which the first one
does, and each leaves fewer. -/
theorem follows_awaitReady {left left' : Nat} (paired : Paired alike table kernel other)
    (enough : Machine.wakeups other.machine ≤ left') :
    Follows alike table kernel other (awaitReady left) (awaitReady left') := by
  induction left generalizing left' kernel other with
  | zero =>
    intro place after came
    obtain ⟨head, middle, polled, came⟩ := bind_ok_iff.mp came
    obtain ⟨middle', polled', served⟩ := follows_poll twins paired head middle polled
    cases head with
    | some chosen =>
      obtain ⟨rfl, rfl⟩ := pure_ok_iff.mp came
      refine ⟨middle', ?_, served⟩
      cases left' <;> exact bind_ok_iff.mpr ⟨some chosen, middle', polled', rfl⟩
    | none => simp only [bind_ok_iff, throw_ok_iff, and_false, exists_false] at came
  | succ left ih =>
    intro place after came
    obtain ⟨head, middle, polled, came⟩ := bind_ok_iff.mp came
    obtain ⟨middle', polled', served⟩ := follows_poll twins paired head middle polled
    cases head with
    | some chosen =>
      obtain ⟨rfl, rfl⟩ := pure_ok_iff.mp came
      refine ⟨middle', ?_, served⟩
      cases left' <;> exact bind_ok_iff.mpr ⟨some chosen, middle', polled', rfl⟩
    | none =>
      obtain ⟨_, awake, slept, came⟩ := bind_ok_iff.mp came
      obtain ⟨awake', slept', woken⟩ := follows_sleep twins served _ _ slept
      have machineEq : middle'.machine = other.machine := by
        obtain ⟨-, -, middleEq⟩ := poll_ok polled'
        rw [middleEq]
      obtain ⟨idled', -⟩ := sleep_ok slept'
      rw [machineEq] at idled'
      have fewer := Machine.wakeups_idle _ _ idled'
      obtain ⟨rest, rfl⟩ : ∃ rest, left' = rest + 1 := ⟨left' - 1, by omega⟩
      have enoughRest : Machine.wakeups awake'.machine ≤ rest := by omega
      obtain ⟨later, came', ended⟩ := ih woken enoughRest place after came
      refine ⟨later, ?_, ended⟩
      exact bind_ok_iff.mpr ⟨none, middle', polled', bind_ok_iff.mpr ⟨_, awake', slept', came'⟩⟩

theorem follows_schedule (paired : Paired alike table kernel other) :
    Follows alike table kernel other schedule schedule := by
  apply follows_get
  apply (follows_awaitReady twins paired (Nat.le_refl _)).bind
  intro place middle middle' awaited
  apply (follows_modify (awaited.arrange awaited.ready_eq rfl)).bind
  intro _ _ _ chosen
  exact follows_pure chosen place

/-- The end of a wait: it is recorded, and ends with a scheduling pass. -/
theorem follows_wait_pass (paired : Paired alike table kernel other) (event : Bool → Event) (blocked : Bool) :
    Follows alike table kernel other
      (do
        let blocked ← pure blocked
        modify (·.record (event blocked))
        let next ← schedule
        pure (.ok (), next) : KernelM width M S n (Except MailError Unit × Fin n))
      (do
        let blocked ← pure blocked
        modify (·.record (event blocked))
        let next ← schedule
        pure (.ok (), next) : KernelM width M' S' n (Except MailError Unit × Fin n)) := by
  apply (follows_pure paired blocked).bind
  intro blocked _ _ paired
  apply (follows_modify (paired.record _)).bind
  intro _ _ _ recorded
  apply (follows_schedule twins recorded).bind
  intro next _ _ scheduled
  exact follows_pure scheduled _

theorem follows_wait (mask : TaskMask) (paired : Paired alike table kernel other) :
    Follows alike table kernel other (wait mask) (wait mask) := by
  apply (follows_caller paired).bind
  intro place kernel other paired
  apply follows_get
  rw [paired.otherDesc_eq]
  apply (follows_modify (paired.unready place)).bind
  intro _ _ _ removed
  dsimp only
  split
  · apply (follows_makeReady removed place).bind
    intro _ _ _ requeued
    exact follows_wait_pass twins requeued _ false
  · apply (follows_modify (removed.setWaiting place _)).bind
    intro _ middle middle' renamed
    apply follows_get
    have sameMail : middle'.hasMailFrom place = middle.hasMailFrom place := by
      funext wanted
      rw [hasMailFrom, renamed.mailbox_eq, hasMailFrom]
    rw [sameMail]
    split
    · apply (follows_makeReady renamed place).bind
      intro _ _ _ requeued
      exact follows_wait_pass twins requeued _ false
    · exact follows_wait_pass twins renamed _ true

theorem follows_yieldTask (paired : Paired alike table kernel other) :
    Follows alike table kernel other yieldTask yieldTask := by
  apply (follows_caller paired).bind
  intro place _ _ paired
  apply (follows_modify (paired.record _)).bind
  intro _ _ _ recorded
  apply (follows_modify (recorded.unready place)).bind
  intro _ _ _ removed
  apply (follows_makeReady removed place).bind
  intro _ _ _ requeued
  exact follows_schedule twins requeued

theorem follows_exit (paired : Paired alike table kernel other) : Follows alike table kernel other exit exit := by
  apply (follows_caller paired).bind
  intro place _ _ paired
  apply (follows_modify (paired.record _)).bind
  intro _ _ _ recorded
  apply (follows_modify (recorded.unready place)).bind
  intro _ _ _ removed
  apply (follows_modify (removed.setWaiting place _)).bind
  intro _ _ _ retired
  exact follows_schedule twins retired

end Schedule

/-! ## Mail -/

section Mail

theorem follows_deliver (sender receiver : Fin n) (message : Message width) (paired : Paired alike table kernel other) :
    Follows alike table kernel other (deliver sender receiver message) (deliver sender receiver message) := by
  apply follows_get
  have permissionEq : (other.taskAt receiver).desc = (kernel.taskAt receiver).desc :=
    congrFun paired.otherDesc_eq receiver
  dsimp only
  rw [permissionEq, paired.mailbox_eq, paired.waiting_eq]
  split
  · split
    · exact follows_pure paired _
    · next box _ =>
      apply (follows_modify (paired.setMailbox receiver box)).bind
      intro _ _ _ posted
      split
      · apply (follows_makeReady posted receiver).bind
        intro _ _ _ woken
        exact follows_pure woken _
      · exact follows_pure posted _
  · exact follows_pure paired _

theorem follows_broadcast (sender : Fin n) (message : Message width) {sofar : Except MailError Unit}
    {places : List (Fin n)} (paired : Paired alike table kernel other) :
    Follows alike table kernel other (broadcast sender message sofar places)
      (broadcast sender message sofar places) := by
  induction places generalizing kernel other sofar with
  | nil => exact follows_pure paired sofar
  | cons receiver rest ih =>
    rw [broadcast, broadcast]
    split
    · exact ih paired
    · apply (follows_deliver sender receiver message paired).bind
      intro delivery _ _ delivered
      exact ih delivered

theorem follows_send (receiver : TaskId) (message : Message width) (paired : Paired alike table kernel other) :
    Follows alike table kernel other (send receiver message) (send receiver message) := by
  apply (follows_caller paired).bind
  intro sender kernel other paired
  -- whichever way the message went, the send is recorded and answers with the result
  have recording {step : KernelM width M S n (Except MailError Unit)}
      {follower : KernelM width M' S' n (Except MailError Unit)}
      (sent : Follows alike table kernel other step follower) :
      Follows alike table kernel other
        (do
          let result ← step
          modify (·.record (.send (.ofIndex sender) receiver (statusOf result)))
          pure result)
        (do
          let result ← follower
          modify (·.record (.send (.ofIndex sender) receiver (statusOf result)))
          pure result) := by
    apply sent.bind
    intro result _ _ sent
    apply (follows_modify (sent.record _)).bind
    intro _ _ _ recorded
    exact follows_pure recorded result
  split
  · exact recording (follows_broadcast sender message paired)
  · split
    · exact recording (follows_deliver sender _ message paired)
    · exact recording (follows_pure paired _)

theorem follows_receive (paired : Paired alike table kernel other) :
    Follows alike table kernel other receive receive := by
  apply (follows_caller paired).bind
  intro place kernel other paired
  apply follows_get
  dsimp only
  rw [paired.mailbox_eq, paired.waiting_eq]
  split
  · next entry box _ =>
    apply (follows_modify (paired.setMailbox place box)).bind
    intro _ _ _ drawn
    apply (follows_modify (drawn.record _)).bind
    intro _ _ _ recorded
    exact follows_pure recorded _
  · apply (follows_modify (paired.record _)).bind
    intro _ _ _ recorded
    exact follows_pure recorded _

end Mail

/-! ## Starting tasks -/

section Lifecycle

variable [Machine M S] [Machine M' S'] (twins : Twins alike table)

include twins

theorem follows_rebuildContext (place : Fin n) (paired : Paired alike table kernel other) :
    Follows alike table kernel other (rebuildContext place) (rebuildContext place) := by
  intro answer after came
  simp only [rebuildContext, bind_ok_iff, get_ok_iff, onMachine_ok_iff, modify_ok_iff] at came
  obtain ⟨_, _, ⟨rfl, rfl⟩, context, _, ⟨machine, built, rfl⟩, rfl⟩ := came
  rw [paired.desc_eq] at built
  obtain ⟨context', machine', built', machines⟩ := twins.build place paired.machines built
  refine ⟨_, ?_, (paired.setMachine machines).changeContext place (fun _ => context) fun _ => context'⟩
  simp only [rebuildContext, bind_ok_iff, get_ok_iff, onMachine_ok_iff, modify_ok_iff]
  refine ⟨_, _, ⟨rfl, rfl⟩, context', _, ⟨machine', ?_, rfl⟩, rfl⟩
  rw [paired.otherDesc_eq, paired.desc_eq]
  exact built'

theorem follows_startTask (place : Fin n) (paired : Paired alike table kernel other) :
    Follows alike table kernel other (startTask place) (startTask place) := by
  apply (follows_modify (paired.resetTask place)).bind
  intro _ _ _ reset
  apply (follows_rebuildContext twins place reset).bind
  intro _ _ _ rebuilt
  exact follows_makeReady rebuilt place

theorem follows_startTasks {places : List (Fin n)} (paired : Paired alike table kernel other) :
    Follows alike table kernel other (startTasks places) (startTasks places) := by
  induction places generalizing kernel other with
  | nil => exact follows_pure paired _
  | cons place rest ih =>
    apply follows_get
    rw [paired.otherDesc_eq]
    split
    · exact follows_pure paired _
    · apply (follows_startTask twins place paired).bind
      intro _ _ _ started
      exact ih started

theorem follows_switchTo (prev : TaskId) (next : Fin n) (paired : Paired alike table kernel other) :
    Follows alike table kernel other (switchTo prev next) (switchTo prev next) := by
  apply (follows_modify (paired.record _)).bind
  intro _ kernel other recorded
  have switches : Follows alike table kernel other (onMachine (Machine.switchSpace prev (.ofIndex next)))
      (onMachine (Machine.switchSpace prev (.ofIndex next))) := by
    apply follows_onMachine recorded
    intro _ after switched
    exact twins.switch prev next recorded.machines switched
  apply switches.bind
  intro _ middle middle' switched
  exact follows_modify (switched.setMachine (twins.name (.ofIndex next) switched.machines))

theorem follows_init (paired : Paired alike table kernel other) : Follows alike table kernel other init init := by
  apply (follows_modify (paired.arrange (congrArg ReadyList.clear paired.ready_eq) rfl)).bind
  intro _ _ _ cleared
  apply (follows_startTasks twins cleared).bind
  intro outcome _ _ started
  cases outcome with
  | error error => exact follows_pure started _
  | ok =>
    apply (follows_schedule twins started).bind
    intro first _ _ scheduled
    apply (follows_modify (scheduled.record _)).bind
    intro _ _ _ recorded
    apply (follows_switchTo twins .nobody first recorded).bind
    intro _ _ _ switched
    exact follows_pure switched _

theorem follows_restart (id : TaskId) (paired : Paired alike table kernel other) :
    Follows alike table kernel other (restart id) (restart id) := by
  unfold restart
  split
  · exact follows_pure paired _
  · next place _ =>
    apply (follows_modify (paired.record _)).bind
    intro _ _ _ recorded
    apply (follows_modify (recorded.unready place)).bind
    intro _ _ _ removed
    apply (follows_startTask twins place removed).bind
    intro _ _ _ started
    apply (follows_schedule twins started).bind
    intro next _ _ scheduled
    exact follows_pure scheduled _

/-- Every direct call follows. -/
theorem follows_perform {call : Call width} (direct : call ≠ .trap) (paired : Paired alike table kernel other) :
    Follows alike table kernel other (perform call) (perform call) := by
  have answering {α : Type} {step : KernelM width M S n α} {follower : KernelM width M' S' n α}
      (answer : α → Answer width n) (stepped : Follows alike table kernel other step follower) :
      Follows alike table kernel other (do return answer (← step)) (do return answer (← follower)) :=
    stepped.bind fun value _ _ paired => follows_pure paired (answer value)
  cases call with
  | init => exact answering _ (follows_init twins paired)
  | wait mask => exact answering (fun result => .waited result.1 result.2) (follows_wait twins mask paired)
  | yield => exact answering _ (follows_yieldTask twins paired)
  | exit => exact answering _ (follows_exit twins paired)
  | schedule => exact answering _ (follows_schedule twins paired)
  | send receiver message => exact answering _ (follows_send receiver message paired)
  | receive => exact answering _ (follows_receive paired)
  | restart id => exact answering _ (follows_restart twins id paired)
  | trap => exact absurd rfl direct

end Lifecycle

end Kernel

end CoopKernel
