import CoopKernel.Proofs.Mail.Delivery
import CoopKernel.Proofs.Kernel.Replay
import CoopKernel.Proofs.Scheduling.Entrance

/-! # A wait that is over has something to receive

A task that waited runs again only when it is ready, and comes back into the ready list only for mail
that it waits for. `Awaits` is what holds meanwhile: nobody else changes for whom the task waits, or
takes anything out of its mailbox. So whenever the task runs again, and until it makes a call of its
own, there is mail for it to receive (`Run.wait_supplied`). The interrupt task is left out, since an
interrupt brings it back without mail.
-/

namespace CoopKernel

variable {width : Width} {M S : Type} {n : Nat}

/-- Whether a moment is a call that a task made while it was running. -/
def Moment.isBy [Machine M S] (place : Fin n) (moment : Moment width M S n) : Bool :=
  moment.before.current == some place && moment.call?.any Call.isOwn

namespace Kernel

variable {kernel after : Kernel width M S n} {place : Fin n} {wanted : TaskMask}

/-- A task waits for the senders of a set, and has mail from one of them if it is ready. -/
structure Awaits (kernel : Kernel width M S n) (place : Fin n) (wanted : TaskMask) : Prop where
  waiting_eq : (kernel.taskAt place).waiting = wanted
  supplied : place ∈ kernel.ready.toList → ∃ entry ∈ kernel.mail place, wanted.contains entry.sender = true

theorem Awaits.of_core (awaits : kernel.Awaits place wanted) (same : after.core = kernel.core) :
    after.Awaits place wanted := by
  have readyEq : after.ready = kernel.ready := congrArg Core.ready same
  have waitingEq : (after.taskAt place).waiting = (kernel.taskAt place).waiting :=
    congrFun (congrArg Core.waiting same) place
  refine ⟨waitingEq.trans awaits.waiting_eq, ?_⟩
  rw [readyEq, mail_of_core same]
  exact awaits.supplied

/-- Only a task that receives loses mail, unless it is started anew. -/
theorem Mailed.mem_of_mem {traffic : Traffic width} (mailed : Mailed kernel place after traffic)
    (kept : traffic.isReset = false) (undrawn : ∀ entry, traffic ≠ .departure entry) {entry : Entry width}
    (inside : entry ∈ kernel.mail place) : entry ∈ after.mail place := by
  cases mailed with
  | emptied => cases kept
  | arrival _ mailEq _ =>
    rw [mailEq]
    exact List.mem_append_left _ inside
  | departure => exact absurd rfl (undrawn _)
  | quiet _ mailEq => rwa [mailEq]
  | ready mailEq _ => rwa [mailEq]
  | rests mailEq _ => rwa [mailEq]

theorem caller_of_departure {call : Call width} {result : Answer width n} {entry : Entry width}
    (departs : kernel.traffic place call result = .departure entry) :
    kernel.current = some place ∧ call.isOwn = true := by
  unfold traffic at departs
  split at departs
  · cases departs
  · split at departs <;> cases departs
  · split at departs
    · split at departs <;> cases departs
    · cases departs
  · split at departs
    · next isCaller => exact ⟨isCaller, rfl⟩
    · cases departs
  · cases departs

/-- A call that neither starts a task nor is its own does not take it out of the ready list. -/
theorem takesOut_of_silent {call : Call width} {result : Answer width n}
    (kept : (kernel.traffic place call result).isReset = false)
    (notOwn : kernel.current = some place → call.isOwn = false) : kernel.takesOut call place = false := by
  apply Bool.eq_false_iff.mpr
  intro takes
  cases call with
  | init => cases kept
  | wait => cases notOwn (beq_iff_eq.mp takes)
  | yield => cases notOwn (beq_iff_eq.mp takes)
  | exit => cases notOwn (beq_iff_eq.mp takes)
  | restart id =>
    have named : id.within n = some place := beq_iff_eq.mp takes
    simp only [traffic, named, ↓reduceIte] at kept
    cases kept
  | _ => cases takes

section Calls

variable [Machine M S]

/-- A wait for somebody leaves the caller out of the ready list, unless it has mail from one of them. -/
theorem wait_awaits {mask : TaskMask} {result : Except MailError Unit} {chosen : Fin n} (orderly : kernel.Orderly)
    (came : wait mask kernel = .ok (result, chosen) after) (isCaller : kernel.current = some place)
    (somebody : (mask ∩ (kernel.desc place).permission).isEmpty = false)
    (uninterrupted : kernel.interruptTask ≠ some place) :
    after.Awaits place (mask ∩ (kernel.desc place).permission) := by
  obtain ⟨caller, middle, known, -, waits, scheduled⟩ := wait_ok came
  cases known.symm.trans isCaller
  have taskEq := scheduled.taskAt_eq place
  cases waits with
  | yields nobody _ => cases nobody.symm.trans somebody
  | stays _ hasMail _ =>
    refine ⟨?_, fun _ => ?_⟩
    · rw [taskEq]
      exact congrArg Task.waiting ((taskAt_setWaiting ..).trans (if_pos rfl))
    · have mailEq : after.mail place = kernel.mail place := by
        rw [mail, taskEq]
        exact mail_setWaiting ..
      rw [mailEq]
      rw [hasMailFrom_eq] at hasMail
      exact List.any_eq_true.mp hasMail
  | blocks _ _ =>
    refine ⟨?_, fun member => ?_⟩
    · rw [taskEq, taskAt_setWaiting, if_pos rfl]
    · have absent : place ∉ (kernel.ready.remove place).toList := by
        rw [orderly.formed.toList_remove]
        exact orderly.formed.nodup.not_mem_erase
      rcases scheduled.entrance (orderly.formed.remove place) member with early | ⟨isInterruptTask, -⟩
      · exact absurd early absent
      · exact absurd isInterruptTask uninterrupted

/-- Calls that do not start the task, and are not its own, let it wait on. -/
theorem Awaits.perform {call : Call width} {result : Answer width n} (awaits : kernel.Awaits place wanted)
    (orderly : kernel.Orderly) (direct : call ≠ .trap) (came : Kernel.perform call kernel = .ok result after)
    (kept : (kernel.traffic place call result).isReset = false)
    (notOwn : kernel.current = some place → call.isOwn = false)
    (uninterrupted : kernel.interruptTask ≠ some place) : after.Awaits place wanted := by
  have untouched : kernel.takesOut call place = false := takesOut_of_silent kept notOwn
  have touched := perform_touches direct came untouched
  have mailed := perform_mails orderly.bootable orderly.formed direct came place
  have undrawn (entry : Entry width) : kernel.traffic place call result ≠ .departure entry := by
    intro departs
    obtain ⟨isCaller, own⟩ := caller_of_departure departs
    cases own.symm.trans (notOwn isCaller)
  refine ⟨touched.waiting_eq.trans awaits.waiting_eq, fun member => ?_⟩
  by_cases early : place ∈ kernel.ready.toList
  · obtain ⟨entry, inside, isWanted⟩ := awaits.supplied early
    exact ⟨entry, mailed.mem_of_mem kept undrawn inside, isWanted⟩
  · have entrance := perform_entrance orderly.formed orderly.current_mem direct came early member
    generalize kernel.traffic place call result = traffic at mailed entrance kept
    cases entrance with
    | started => cases kept
    | @woken entry awaited =>
      -- the mail that made the task ready is the mail that it waits for
      cases mailed with
      | arrival _ mailEq _ =>
        refine ⟨entry, ?_, awaits.waiting_eq ▸ awaited⟩
        rw [mailEq]
        exact List.mem_append_right _ (List.mem_singleton_self entry)
    | interrupted isInterruptTask _ => exact absurd isInterruptTask uninterrupted

/-- A running task with mail that it waits for receives the oldest such entry. -/
theorem receive_of_find? {entry : Entry width} (isCaller : kernel.current = some place)
    (found : (kernel.mail place).find? (fun entry => (kernel.taskAt place).waiting.contains entry.sender) =
      some entry) : ∃ after, perform .receive kernel = .ok (.received (.ok entry)) after := by
  obtain ⟨box, taken⟩ := Mailbox.take_of_find? found
  refine ⟨(kernel.setMailbox place box).record (.receive (.ofIndex place) entry.sender success), ?_⟩
  refine bind_ok_iff.mpr ⟨.ok entry, _, ?_, pure_ok_iff.mpr ⟨rfl, rfl⟩⟩
  simp only [receive, bind_ok_iff, caller_ok_iff, get_ok_iff]
  refine ⟨place, _, ⟨isCaller, rfl⟩, _, _, ⟨rfl, rfl⟩, ?_⟩
  rw [taken]
  simp only [bind_ok_iff, modify_ok_iff, pure_ok_iff]
  exact ⟨⟨⟩, _, rfl, ⟨⟩, _, rfl, trivial, rfl⟩

end Calls

end Kernel

section Histories

variable [Machine M S] {start kernel : Kernel width M S n} {place : Fin n} {wanted : TaskMask}

namespace Moment

variable {moment : Moment width M S n}

theorem awaits_of_wait {mask : TaskMask} (came : moment.Came) (orderly : moment.before.Orderly)
    (waits : moment.call? = some (.wait mask)) (isCaller : moment.before.current = some place)
    (somebody : (mask ∩ (moment.before.desc place).permission).isEmpty = false)
    (uninterrupted : moment.before.interruptTask ≠ some place) :
    moment.after.Awaits place (mask ∩ (moment.before.desc place).permission) := by
  rcases performs_or_keeps came with ⟨call, result, middle, performs⟩ | ⟨uncalled, -⟩
  · cases waits.symm.trans performs.call_eq
    cases Kernel.perform_ok performs.performed with
    | wait waited => exact (Kernel.wait_awaits orderly waited isCaller somebody uninterrupted).of_core performs.core_eq
  · cases uncalled.symm.trans waits

theorem awaits (came : moment.Came) (orderly : moment.before.Orderly) (kept : moment.resets place = false)
    (notOwn : moment.isBy place = false) (uninterrupted : moment.before.interruptTask ≠ some place)
    (awaits : moment.before.Awaits place wanted) : moment.after.Awaits place wanted := by
  rcases performs_or_keeps came with ⟨call, result, middle, performs⟩ | ⟨-, same⟩
  · rw [resets, traffic_of_performs performs] at kept
    have silent : moment.before.current = some place → call.isOwn = false := by
      intro isCaller
      simpa [isBy, isCaller, performs.call_eq] using notOwn
    exact (awaits.perform orderly performs.direct performs.performed kept silent uninterrupted).of_core
      performs.core_eq
  · exact awaits.of_core same

end Moment

namespace Run

variable {earlier later : List (Moment width M S n)} {wait : Moment width M S n}

theorem awaits {mask : TaskMask} (orderly : start.Orderly) (run : Run start (earlier ++ wait :: later) kernel)
    (waits : wait.call? = some (.wait mask)) (isCaller : wait.before.current = some place)
    (somebody : (mask ∩ (wait.before.desc place).permission).isEmpty = false)
    (uninterrupted : start.interruptTask ≠ some place) (kept : ∀ moment ∈ later, moment.resets place = false)
    (silent : ∀ moment ∈ later, moment.isBy place = false) :
    kernel.Awaits place (mask ∩ (wait.before.desc place).permission) := by
  induction later using List.reverseRecOn generalizing kernel with
  | nil =>
    obtain ⟨before, came, rfl⟩ := run.of_concat
    refine wait.awaits_of_wait came (before.orderly orderly) waits isCaller somebody ?_
    rwa [before.sameTable.interruptTask_eq]
  | append_singleton later moment ih =>
    rw [← List.cons_append, ← List.append_assoc] at run
    obtain ⟨before, came, rfl⟩ := run.of_concat
    have sofar := ih before (fun other member => kept other (List.mem_append_left _ member))
      fun other member => silent other (List.mem_append_left _ member)
    have last : moment ∈ later ++ [moment] := List.mem_append_right _ (List.mem_singleton_self _)
    refine moment.awaits came (before.orderly orderly) (kept moment last) (silent moment last) ?_ sofar
    rwa [before.sameTable.interruptTask_eq]

/-- After a task other than the interrupt task waited for somebody, whatever happens short of starting it anew: when
the task runs again, and has made no call of its own yet, it still waits for the same senders, has mail from one of
them, and would receive the oldest such entry. -/
theorem wait_supplied {mask : TaskMask} (booted : start.Booted) (run : Run start (earlier ++ wait :: later) kernel)
    (waits : wait.call? = some (.wait mask)) (isCaller : wait.before.current = some place)
    (somebody : (mask ∩ (wait.before.desc place).permission).isEmpty = false)
    (uninterrupted : start.interruptTask ≠ some place) (kept : ∀ moment ∈ later, moment.resets place = false)
    (silent : ∀ moment ∈ later, moment.isBy place = false) (isCurrent : kernel.current = some place) :
    (kernel.taskAt place).waiting = mask ∩ (wait.before.desc place).permission ∧
      ∃ entry after, (kernel.mail place).find? (fun entry =>
          (mask ∩ (wait.before.desc place).permission).contains entry.sender) = some entry ∧
        Kernel.perform .receive kernel = .ok (.received (.ok entry)) after := by
  have awaits := run.awaits booted.orderly waits isCaller somebody uninterrupted kept silent
  have member := (run.orderly booted.orderly).current_mem place isCurrent
  obtain ⟨entry, found⟩ := Option.isSome_iff_exists.mp (List.find?_isSome.mpr (awaits.supplied member))
  refine ⟨awaits.waiting_eq, entry, ?_⟩
  have found' := found
  rw [← awaits.waiting_eq] at found'
  obtain ⟨after, received⟩ := Kernel.receive_of_find? isCurrent found'
  exact ⟨after, found, received⟩

/-- The timer of the demo waits for everybody, which leaves the interrupt task. An interrupt brings that one back, and
it sends to the timer before it retires again. -/
theorem wait_supplied_demo : ∃ earlier wait later kernel, Run Demo.started (earlier ++ wait :: later) kernel ∧
    wait.call? = some (.wait .full) ∧ wait.before.current = some 1 ∧ later.length = 5 ∧ kernel.current = some 1 ∧
    (kernel.taskAt 1).waiting = .ofPlace 0 ∧
    ∃ after, Kernel.perform .receive kernel = .ok (.received (.ok ⟨.ofIndex 0, 7⟩)) after := by
  have computed : (replay? Demo.started [.call .exit, .call (.wait .full), .outside HostMachine.raise, .call .schedule,
      .call (.send (.ofIndex 1) 7), .outside HostMachine.acknowledge, .call .exit]).any (fun final =>
        match final.1 with
        | [] | [_] => false
        | _ :: wait :: later => decide (wait.call? = some (.wait .full) ∧ wait.before.current = some 1 ∧
            (wait.before.desc 1).permission = .ofPlace 0 ∧ later.length = 5 ∧
            later.all (fun moment => !moment.resets 1 && !moment.isBy 1) = true ∧ final.2.current = some 1 ∧
            final.2.mail 1 = [⟨.ofIndex 0, 7⟩])) = true := by
    decide +kernel
  obtain ⟨history, kernel, run, facts⟩ := Run.of_replay? computed
  rcases history with _ | ⟨first, _ | ⟨wait, later⟩⟩
  · cases facts
  · cases facts
  replace run : Run Demo.started ([first] ++ wait :: later) kernel := run
  obtain ⟨waits, isCaller, permissionEq, lengthEq, undisturbed, isCurrent, mailEq⟩ := of_decide_eq_true facts
  have quiet (moment : Moment .eight HostMachine HostContext 4) (member : moment ∈ later) :
      moment.resets 1 = false ∧ moment.isBy 1 = false := by
    simpa using List.all_eq_true.mp undisturbed moment member
  have somebody : (TaskMask.full ∩ (wait.before.desc 1).permission).isEmpty = false := by
    rw [permissionEq]
    decide
  have supplied := wait_supplied Demo.booted_started run waits isCaller somebody (by decide +kernel)
    (fun moment member => (quiet moment member).1) (fun moment member => (quiet moment member).2) isCurrent
  rw [permissionEq, mailEq] at supplied
  obtain ⟨waitingEq, entry, after, found, received⟩ := supplied
  cases found
  exact ⟨[first], wait, later, kernel, run, waits, isCaller, lengthEq, isCurrent, waitingEq, after, received⟩

end Run

end Histories

end CoopKernel
