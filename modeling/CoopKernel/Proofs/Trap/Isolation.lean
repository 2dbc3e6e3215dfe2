import CoopKernel.Proofs.Kernel.Replay
import CoopKernel.Proofs.Mail.Awaiting
import CoopKernel.Proofs.Trap.Registers

/-! # Traps leave other tasks alone

What a trap of one task can do to another is small: put one message behind its mail, and make it ready
for that message. Beside that, a pass may make the interrupt task ready (`Isolated`). The saved registers
that a trap changes are the caller's own, and of these only the ones that carry results, or all of them
when the task starts over (`Rewritten`). `Run.trap_isolated` says both for every trap that comes back on
the host.
-/

namespace CoopKernel

namespace Kernel

section Calls

variable {width : Width} {M S : Type} {n : Nat} {kernel after : Kernel width M S n} {caller place : Fin n}
  {call : Call width} {result : Answer width n}

theorem context_setWaiting (place other : Fin n) (mask : TaskMask) :
    ((kernel.setWaiting place mask).taskAt other).context = (kernel.taskAt other).context := by
  rw [taskAt_setWaiting]
  split
  · next same => rw [same]
  · rfl

/-- A task that calls takes nobody but itself out of the ready list. -/
theorem takesOut_of_isOwn (own : call.isOwn = true) (isCaller : kernel.current = some caller)
    (other : place ≠ caller) : kernel.takesOut call place = false := by
  cases call with
  | init => cases own
  | restart => cases own
  | wait => simpa [takesOut, isCaller] using other.symm
  | yield => simpa [takesOut, isCaller] using other.symm
  | exit => simpa [takesOut, isCaller] using other.symm
  | _ => rfl

/-- A task that calls starts nobody. -/
theorem isReset_of_isOwn (own : call.isOwn = true) (place : Fin n) (result : Answer width n) :
    (kernel.traffic place call result).isReset = false := by
  apply Bool.eq_false_iff.mpr
  intro reset
  rcases isReset_traffic.mp reset with rfl | ⟨id, rfl, -⟩ <;> cases own

variable [Machine M S]

/-- Direct calls of tasks leave all saved registers. -/
theorem perform_context (own : call.isOwn = true) (direct : call ≠ .trap)
    (came : perform call kernel = .ok result after) (place : Fin n) :
    (after.taskAt place).context = (kernel.taskAt place).context := by
  cases untouched : kernel.takesOut call place with
  | false =>
    cases perform_touches direct came untouched with
    | same taskEq => rw [taskEq]
    | posted _ _ _ _ taskEq => rw [taskEq]
    | drew _ taskEq => rw [taskEq]
  | true =>
    cases perform_ok came with
    | init => cases own
    | restart => cases own
    | trap => exact absurd rfl direct
    | wait came =>
      obtain ⟨_, _, -, -, waits, scheduled⟩ := wait_ok came
      rw [scheduled.taskAt_eq]
      cases waits with
      | yields _ _ => rfl
      | stays _ _ _ => exact context_setWaiting ..
      | blocks _ _ => exact context_setWaiting ..
    | yield came =>
      obtain ⟨_, _, -, -, scheduled⟩ := yieldTask_ok came
      rw [scheduled.taskAt_eq]
      rfl
    | exit came =>
      obtain ⟨_, -, scheduled⟩ := exit_ok came
      rw [scheduled.taskAt_eq]
      exact context_setWaiting ..
    | schedule => cases untouched
    | send => cases untouched
    | receive => cases untouched

/-- Serving a trap changes no saved registers but the caller's. -/
theorem Replied.context_eq {chosen : Fin n} (replied : Replied kernel caller chosen after) (apart : place ≠ caller) :
    (after.taskAt place).context = (kernel.taskAt place).context := by
  cases replied with
  | unknown _ =>
    rw [refused, taskAt_changeContext_of_ne apart]
    rfl
  | shown _ _ performed =>
    rw [taskAt_changeContext_of_ne apart]
    exact perform_context (Syscall.isOwn_call ..) (Syscall.call_ne_trap _ _ _) performed place
  | exited _ performed _ =>
    have direct : Call.exit ≠ (.trap : Call width) := nofun
    rw [taskAt_changeContext_of_ne apart]
    exact perform_context rfl direct performed place

theorem trap_context {chosen : Fin n} (isCaller : kernel.current = some caller) (apart : place ≠ caller)
    (came : trap kernel = .ok chosen after) : (after.taskAt place).context = (kernel.taskAt place).context := by
  obtain ⟨served, servedEq, handed⟩ := trap_served isCaller came
  rw [handed.taskAt_eq]
  exact (serve_replied servedEq).context_eq apart

end Calls

section Traps

variable {width : Width} {n : Nat} {kernel middle after : Kernel width HostMachine HostContext n}
  {caller other chosen : Fin n}

/-- The trap of one task is a send to another, or to everyone, that put its message behind the other's mail. -/
structure Posts (kernel : Kernel width HostMachine HostContext n) (caller other : Fin n) (message : Message width)
    (after : Kernel width HostMachine HostContext n) : Prop where
  asked : ∃ receiver, (kernel.taskAt caller).context.Asks (.send receiver message) ∧
    (receiver = TaskId.everyone ∨ receiver = .ofIndex other)
  permitted : (kernel.desc other).permission.contains (.ofIndex caller) = true
  mail_eq : after.mail other = kernel.mail other ++ [⟨.ofIndex caller, message⟩]

/-- All that a trap of one task can have done to another. -/
structure Isolated (kernel : Kernel width HostMachine HostContext n) (caller other : Fin n)
    (after : Kernel width HostMachine HostContext n) : Prop where
  context_eq : (after.taskAt other).context = (kernel.taskAt other).context
  waiting_eq : (after.taskAt other).waiting = (kernel.taskAt other).waiting
  mailbox : (after.taskAt other).mailbox = (kernel.taskAt other).mailbox ∨
    ∃ message, Posts kernel caller other message after
  stays : kernel.ready.contains other = true → after.ready.contains other = true
  enters : kernel.ready.contains other = false → after.ready.contains other = true →
    ((∃ message, Posts kernel caller other message after) ∧
        (kernel.taskAt other).waiting.contains (.ofIndex caller) = true) ∨
      kernel.interruptTask = some other ∧ after.machine.pending = true

/-- Nothing about a task depends on more than its record, the ready list, and whether an interrupt waits. -/
theorem Isolated.congr (isolated : Isolated kernel caller other middle)
    (taskEq : after.taskAt other = middle.taskAt other) (readyEq : after.ready = middle.ready)
    (pendingEq : after.machine.pending = middle.machine.pending) : Isolated kernel caller other after := by
  have mailEq : after.mail other = middle.mail other := by rw [mail, taskEq, mail]
  have posts (message : Message width) (posted : Posts kernel caller other message middle) :
      Posts kernel caller other message after :=
    ⟨posted.asked, posted.permitted, mailEq.trans posted.mail_eq⟩
  constructor
  · rw [taskEq]
    exact isolated.context_eq
  · rw [taskEq]
    exact isolated.waiting_eq
  · rw [taskEq]
    exact isolated.mailbox.imp_right (Exists.imp posts)
  · rw [readyEq]
    exact isolated.stays
  · rw [readyEq, pendingEq]
    intro absent member
    exact (isolated.enters absent member).imp_left (And.imp_left (Exists.imp posts))

theorem Isolated.refl (kernel : Kernel width HostMachine HostContext n) (caller other : Fin n) :
    Isolated kernel caller other kernel where
  context_eq := rfl
  waiting_eq := rfl
  mailbox := .inl rfl
  stays := id
  enters absent member := absurd (absent.symm.trans member) Bool.false_ne_true

theorem Isolated.changeContext (isolated : Isolated kernel caller other middle) (apart : other ≠ caller)
    (change : HostContext → HostContext) : Isolated kernel caller other (middle.changeContext caller change) :=
  isolated.congr (taskAt_changeContext_of_ne apart change) rfl rfl

/-- Of the record of another task a call changes the mailbox only, and only by posting a message. -/
theorem Touched.posts {call : Call width} (touched : Touched kernel other after call)
    (isCaller : kernel.current = some caller) (apart : other ≠ caller)
    (named : (kernel.taskAt caller).context.Asks call) :
    (after.taskAt other).mailbox = (kernel.taskAt other).mailbox ∨
      ∃ message, Posts kernel caller other message after := by
  cases touched with
  | same taskEq => exact .inl (congrArg Task.mailbox taskEq)
  | drew isReader _ => exact absurd (Option.some.inj (isReader.symm.trans isCaller)) apart
  | @posted receiver message sender box isSender addressed permitted pushed taskEq =>
    cases isSender.symm.trans isCaller
    refine .inr ⟨message, ⟨receiver, named, ?_⟩, permitted, ?_⟩
    · have small : n ≤ 128 := Nat.le_trans kernel.fits (by decide)
      unfold TaskId.addresses at addressed
      split at addressed
      · next all => exact .inl all
      · exact .inr ((TaskId.within_eq_some_iff small).mp (beq_iff_eq.mp addressed))
    · rw [mail, taskEq]
      exact Mailbox.entries_push pushed

/-- Another task becomes ready for the message that was posted, or for an interrupt. -/
theorem Entrance.posts {traffic : Traffic width} (entrance : Entrance kernel other after traffic)
    (mailed : Mailed kernel other after traffic) (kept : traffic.isReset = false)
    (changed : (after.taskAt other).mailbox = (kernel.taskAt other).mailbox ∨
      ∃ message, Posts kernel caller other message after) :
    ((∃ message, Posts kernel caller other message after) ∧
        (kernel.taskAt other).waiting.contains (.ofIndex caller) = true) ∨
      kernel.interruptTask = some other ∧ after.machine.pending = true := by
  cases entrance with
  | started => cases kept
  | interrupted isInterruptTask pending => exact .inr ⟨isInterruptTask, pending⟩
  | @woken entry awaited =>
    -- the entry that arrived is the message that was posted
    cases mailed with
    | arrival _ mailEq _ =>
      rcases changed with same | ⟨message, posted⟩
      · rw [mail, same, ← mail] at mailEq
        exact absurd (List.append_right_eq_self.mp mailEq.symm) (List.cons_ne_nil _ _)
      · rw [posted.mail_eq, List.append_cancel_left_eq, List.singleton_inj] at mailEq
        rw [← mailEq] at awaited
        exact .inl ⟨⟨message, posted⟩, awaited⟩

/-- What a direct call of a task does to another, if the caller's registers ask for the call. -/
theorem perform_isolates {syscall : Syscall} {result : Answer width n} (orderly : kernel.Orderly)
    (isCaller : kernel.current = some caller) (apart : other ≠ caller) (asks : kernel.asked caller = some syscall)
    (came : perform (kernel.encoded caller syscall) kernel = .ok result after) :
    Isolated kernel caller other after := by
  have named : (kernel.taskAt caller).context.Asks (kernel.encoded caller syscall) := HostContext.asks_call asks
  have own : (kernel.encoded caller syscall).isOwn = true := Syscall.isOwn_call ..
  have direct : kernel.encoded caller syscall ≠ .trap := Syscall.call_ne_trap _ _ _
  generalize kernel.encoded caller syscall = call at named own direct came
  have untouched : kernel.takesOut call other = false := takesOut_of_isOwn own isCaller apart
  have movement := perform_moves orderly.bootable orderly.formed direct came
  have mailed := perform_mails orderly.bootable orderly.formed direct came other
  have touched := perform_touches direct came untouched
  have changed := touched.posts isCaller apart named
  constructor
  · exact perform_context own direct came other
  · exact touched.waiting_eq
  · exact changed
  · intro ready
    rw [orderly.formed.contains_iff] at ready
    rw [movement.formed.contains_iff]
    exact (movement.attends untouched touched.waiting_eq).stays ready
  · intro unready ready
    rw [movement.formed.contains_iff] at ready
    have absent : other ∉ kernel.ready.toList := by
      rw [← orderly.formed.contains_iff, unready]
      exact Bool.false_ne_true
    have entrance := perform_entrance orderly.formed orderly.current_mem direct came absent ready
    exact entrance.posts mailed (isReset_of_isOwn own other result) changed

/-- What serving a trap does to another task. -/
theorem Replied.isolates (replied : Replied kernel caller chosen after) (orderly : kernel.Orderly)
    (isCaller : kernel.current = some caller) (apart : other ≠ caller) : Isolated kernel caller other after := by
  cases replied with
  | unknown _ =>
    have shown := (Isolated.refl kernel caller other).changeContext apart
      (Registers.setStatus · (.error .badParam : Except MailError Unit))
    exact shown.congr rfl rfl rfl
  | shown asks _ performed => exact (perform_isolates orderly isCaller apart asks performed).changeContext apart _
  | @exited _ middle _ _ asks performed built =>
    cases built
    have rebuilt := (perform_isolates orderly isCaller apart asks performed).changeContext apart
      fun _ => HostContext.start (.ofIndex caller) (middle.desc caller)
    exact rebuilt.congr rfl rfl rfl

/-- Handing the processor over moves no task, and no interrupt comes or goes with it. -/
theorem HandedOver.quiet (handed : HandedOver caller middle chosen after) :
    after.ready = middle.ready ∧ after.machine.pending = middle.machine.pending := by
  cases handed with
  | stays => exact ⟨rfl, rfl⟩
  | switched _ switched =>
    obtain ⟨machine, switched, rfl⟩ := switched
    cases switched
    exact ⟨rfl, rfl⟩

/-! ## The registers of the caller -/

/-- What a trap makes of the saved registers of the task that made it: it writes the first register, or all four for
what was received, and a task that exits gets the registers with which it starts. -/
structure Rewritten (saved : HostContext) (id : TaskId) (desc : TaskDesc) (after : HostContext) : Prop where
  exits : saved.number = 4 → after = .start id desc
  receives : saved.number = 3 → ∃ registers, after = { saved with registers := registers }
  others : saved.number ≠ 3 → saved.number ≠ 4 →
    ∃ word, after = { saved with registers := saved.registers.set 0 word }

theorem Replied.rewrites (replied : Replied kernel caller chosen after) (orderly : kernel.Orderly) :
    Rewritten (kernel.taskAt caller).context (.ofIndex caller) (kernel.desc caller)
      (after.taskAt caller).context := by
  cases replied with
  | unknown unknown =>
    have large : 4 < (kernel.taskAt caller).context.number := Syscall.exceeds_of_ofNumber? unknown
    rw [refused, context_changeContext]
    constructor
    · intro exits
      rw [exits] at large
      exact absurd large (by decide)
    · intro receives
      rw [receives] at large
      exact absurd large (by decide)
    · intro _ _
      exact ⟨_, rfl⟩
  | @shown syscall result middle asks returns performed =>
    have number : syscall.number = (kernel.taskAt caller).context.number := Syscall.number_of_ofNumber? asks
    have kept : (middle.taskAt caller).context = (kernel.taskAt caller).context :=
      perform_context (Syscall.isOwn_call ..) (Syscall.call_ne_trap _ _ _) performed caller
    rw [context_changeContext, kept]
    constructor
    · intro exits
      rw [exits] at number
      cases syscall with
      | exit => exact absurd rfl returns
      | _ => exact absurd number (by decide)
    · intro receives
      rw [receives] at number
      cases syscall with
      | receive =>
        cases perform_ok performed with
        | receive _ => exact ⟨_, rfl⟩
      | _ => exact absurd number (by decide)
    · intro other _
      cases syscall with
      | receive => exact absurd number.symm other
      | exit => exact absurd rfl returns
      | wait =>
        cases perform_ok performed with
        | wait _ => exact ⟨_, rfl⟩
      | yield =>
        cases perform_ok performed with
        | yield _ => exact ⟨_, rfl⟩
      | send =>
        cases perform_ok performed with
        | send _ => exact ⟨_, rfl⟩
  | @exited _ middle _ _ asks performed built =>
    cases built
    have number : (kernel.taskAt caller).context.number = 4 := (Syscall.number_of_ofNumber? asks).symm
    have movement := perform_moves orderly.bootable orderly.formed (by simp) performed
    rw [context_changeContext]
    constructor
    · intro _
      rw [movement.desc_eq]
    · intro receives
      rw [number] at receives
      exact absurd receives (by decide)
    · intro _ other
      exact absurd number other

end Traps

end Kernel

namespace Run

variable {width : Width} {n : Nat} {fresh kernel after : Kernel width HostMachine HostContext n}
  {history : List (Moment width HostMachine HostContext n)} {caller chosen : Fin n}

/-- Whatever happened to a kernel made from a table without empty sections, a trap of the current task isolates every
other task, and rewrites only those of the caller's own registers that its number is about. -/
theorem trap_isolated {table : Vector TaskDesc n} {interruptTask : TaskId} {machine : HostMachine}
    (sections : ∀ place, (table.get place).firstEmpty = none)
    (made : Kernel.new table interruptTask machine = .ok fresh) (run : Run fresh history kernel)
    (isCaller : kernel.current = some caller) (came : Kernel.trap kernel = .ok chosen after) :
    (∀ other, other ≠ caller → Kernel.Isolated kernel caller other after) ∧
      Kernel.Rewritten (kernel.taskAt caller).context (.ofIndex caller) (kernel.desc caller)
        (after.taskAt caller).context := by
  have orderly := run.orderly ((Kernel.new_ok made).orderly sections)
  obtain ⟨served, servedEq, handed⟩ := Kernel.trap_served isCaller came
  have replied := Kernel.serve_replied servedEq
  obtain ⟨readyEq, pendingEq⟩ := handed.quiet
  constructor
  · intro other apart
    exact (replied.isolates orderly isCaller apart).congr (handed.taskAt_eq other) readyEq pendingEq
  · rw [handed.taskAt_eq]
    exact replied.rewrites orderly

/-- In the demo one of the equals sends to everyone while the other waits for it. -/
theorem trap_isolated_demo : ∃ history kernel chosen after, Run Demo.fresh history kernel ∧
    kernel.current = some 2 ∧ kernel.ready.contains 3 = false ∧ Kernel.trap kernel = .ok chosen after ∧
    after.ready.contains 3 = true ∧ (∀ other, other ≠ 2 → Kernel.Isolated kernel 2 other after) ∧
    Kernel.Rewritten (kernel.taskAt 2).context (.ofIndex 2) (kernel.desc 2) (after.taskAt 2).context := by
  have computed : (replay? Demo.fresh [.call .init, .call .exit, .call (.wait .full), .call .yield,
      .call (.wait (.ofPlace 2)), .load 2 (·.load 2 [0xfffffffe, 7, 0])]).any (fun final =>
        decide (final.2.current = some 2 ∧ final.2.ready.contains 3 = false) &&
        match Kernel.trap final.2 with
        | .ok _ after => after.ready.contains 3
        | .error _ _ => false) = true := by
    decide +kernel
  obtain ⟨history, kernel, run, facts⟩ := Run.of_replay? computed
  obtain ⟨standing, entered⟩ := Bool.and_eq_true_iff.mp facts
  obtain ⟨isCaller, absent⟩ := of_decide_eq_true standing
  cases came : Kernel.trap kernel with
  | error fault middle => simp [came] at entered
  | ok chosen after =>
    rw [came] at entered
    exact ⟨history, kernel, chosen, after, run, isCaller, absent, came, entered,
      trap_isolated Demo.table_sections Demo.new_table run isCaller came⟩

end Run

end CoopKernel
