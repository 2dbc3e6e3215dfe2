import CoopKernel.Proofs.Kernel.Failing
import CoopKernel.Proofs.Mail.Awaiting
import CoopKernel.Proofs.Scheduling.Policy

/-! # A task that exited stays away

An exit leaves a task out of the ready list and waiting for nobody. Mail wakes only who waits for it, so
as long as the task is not started again, nothing but an interrupt brings it back, and that only if it is
the interrupt task (`Run.exit_retires`). Its mailbox stays open meanwhile: messages are accepted by the
rules that hold for every task, and pile up behind what was there when it exited.
-/

namespace CoopKernel

variable {width : Width} {M S : Type} {n : Nat}

namespace Kernel

variable {kernel after : Kernel width M S n} {place : Fin n}

/-- A mailbox that is neither emptied nor drawn from only grows. -/
theorem Mailed.mail_eq_append {traffic : Traffic width} (mailed : Mailed kernel place after traffic)
    (kept : traffic.isReset = false) (undrawn : ∀ entry, traffic ≠ .departure entry) :
    after.mail place = kernel.mail place ++ traffic.arrival?.toList := by
  cases mailed with
  | emptied => cases kept
  | arrival _ mailEq _ => exact mailEq
  | departure => exact absurd rfl (undrawn _)
  | quiet _ mailEq => exact mailEq.trans (List.append_nil _).symm
  | ready mailEq _ => exact mailEq.trans (List.append_nil _).symm
  | rests mailEq _ => exact mailEq.trans (List.append_nil _).symm

theorem undrawn_of_silent {call : Call width} {result : Answer width n}
    (notOwn : kernel.current = some place → call.isOwn = false) (entry : Entry width) :
    kernel.traffic place call result ≠ .departure entry := by
  intro departs
  obtain ⟨isCaller, own⟩ := caller_of_departure departs
  cases own.symm.trans (notOwn isCaller)

/-- Whoever waits for nobody becomes ready in a scheduling pass only. -/
theorem reschedules_of_entrance [Machine M S] {call : Call width} {result : Answer width n} (orderly : kernel.Orderly)
    (direct : call ≠ .trap) (came : perform call kernel = .ok result after)
    (unwaiting : (kernel.taskAt place).waiting = .empty) (absent : place ∉ kernel.ready.toList)
    (member : place ∈ after.ready.toList) : call.reschedules result = true := by
  cases perform_ok came with
  | send came =>
    obtain ⟨entry, -, awaited⟩ := send_entrance orderly.formed came absent member
    rw [unwaiting, TaskMask.contains_empty] at awaited
    cases awaited
  | receive came =>
    obtain ⟨caller, -, ⟨_, _, -, -, afterEq⟩ | ⟨_, -, -, afterEq⟩⟩ := receive_ok came
    · rw [afterEq] at member
      exact absurd member absent
    · rw [afterEq] at member
      exact absurd member absent
  | restart came =>
    rcases restart_ok came with ⟨-, rfl, rfl⟩ | ⟨_, _, _, -, -, -, rfl⟩
    · exact absurd member absent
    · rfl
  | trap => exact absurd rfl direct
  | _ => rfl

/-- Whoever waits for nobody, and is not started, becomes ready only as the interrupt task. -/
theorem interrupted_of_entrance [Machine M S] {call : Call width} {result : Answer width n}
    (formed : kernel.ready.WellFormed) (seated : ∀ caller, kernel.current = some caller → caller ∈ kernel.ready.toList)
    (direct : call ≠ .trap) (came : perform call kernel = .ok result after)
    (kept : (kernel.traffic place call result).isReset = false)
    (unwaiting : (kernel.taskAt place).waiting = .empty) (absent : place ∉ kernel.ready.toList)
    (member : place ∈ after.ready.toList) :
    kernel.interruptTask = some place ∧ Machine.interruptPending after.machine = true := by
  have entrance := perform_entrance formed seated direct came absent member
  generalize kernel.traffic place call result = traffic at entrance kept
  cases entrance with
  | started => cases kept
  | woken awaited =>
    rw [unwaiting, TaskMask.contains_empty] at awaited
    cases awaited
  | interrupted isInterruptTask pending => exact ⟨isInterruptTask, pending⟩

/-- A send to a task that waits for nobody comes back, and offers the message without waking the task. -/
theorem offers_of_unwaiting [Machine M S] (orderly : kernel.Orderly) (unwaiting : (kernel.taskAt place).waiting = .empty)
    {sender : Fin n} (isCaller : kernel.current = some sender) {receiver : TaskId} (message : Message width)
    (addressed : receiver.addresses sender place = true) :
    ∃ result after, perform (.send receiver message) kernel = .ok (.sent result) after ∧
      after.taskAt place = (kernel.taskAt place).offered (.ofIndex sender) message ∧
      (receiver ≠ .everyone → result = kernel.verdict sender place) ∧
      after.ready.contains place = kernel.ready.contains place := by
  obtain ⟨result, after, sent⟩ : ∃ result after, send receiver message kernel = .ok result after :=
    send_comes_back orderly.formed isCaller message
  have performed : perform (.send receiver message) kernel = .ok (.sent result) after :=
    bind_ok_iff.mpr ⟨result, after, sent, pure_ok_iff.mpr ⟨rfl, rfl⟩⟩
  refine ⟨result, after, performed, ?_, ?_, ?_⟩
  · obtain ⟨caller, known, taskEq⟩ := send_taskAt sent
    cases known.symm.trans isCaller
    rw [taskEq, addressed, if_pos rfl]
  · intro one
    rw [TaskId.addresses, if_neg one, beq_iff_eq] at addressed
    exact send_result sent isCaller one addressed
  · have movement := send_moves orderly.formed sent
    rw [Bool.eq_iff_iff, movement.formed.contains_iff, orderly.formed.contains_iff]
    constructor
    · intro member
      by_contra absent
      obtain ⟨entry, -, awaited⟩ := send_entrance orderly.formed sent absent member
      rw [unwaiting, TaskMask.contains_empty] at awaited
      cases awaited
    · intro member
      exact movement.admits.mem_of_mem (List.mem_filter.mpr ⟨member, rfl⟩)

end Kernel

namespace Moment

variable [Machine M S] {moment : Moment width M S n} {place : Fin n}

def arrival? (place : Fin n) (moment : Moment width M S n) : Option (Entry width) := (moment.traffic place).arrival?

/-- The moment's direct call ended with a scheduling pass, and the machine it left had an interrupt pending. -/
def SawInterrupt (moment : Moment width M S n) : Prop :=
  moment.reschedules = true ∧ ∃ call result middle, moment.Performs call result middle ∧
    Machine.interruptPending middle.machine = true

theorem sawInterrupt_of_performs {call : Call width} {result : Answer width n} {middle : Kernel width M S n}
    (performs : moment.Performs call result middle) (passes : call.reschedules result = true)
    (pending : Machine.interruptPending middle.machine = true) : moment.SawInterrupt := by
  refine ⟨?_, call, result, middle, performs, pending⟩
  rw [reschedules, performs.call_eq, performs.outcome_eq]
  exact passes

theorem notOwn_of_performs {call : Call width} {result : Answer width n} {middle : Kernel width M S n}
    (performs : moment.Performs call result middle) (silent : moment.isBy place = false)
    (isCaller : moment.before.current = some place) : call.isOwn = false := by
  simpa [isBy, isCaller, performs.call_eq] using silent

end Moment

/-- What an exit of a task, and what came later, have left of it. -/
structure Retired [Machine M S] (exit : Moment width M S n) (later : List (Moment width M S n))
    (kernel : Kernel width M S n) (place : Fin n) : Prop where
  waiting_eq : (kernel.taskAt place).waiting = .empty
  away : kernel.interruptTask ≠ some place → place ∉ kernel.ready.toList
  recalled : ∀ moment ∈ exit :: later, place ∈ moment.arrivals → moment.SawInterrupt
  mail_eq : kernel.mail place = exit.before.mail place ++ later.filterMap (Moment.arrival? place)

section Histories

variable [Machine M S] {start kernel : Kernel width M S n} {place : Fin n}
  {earlier later : List (Moment width M S n)} {exit moment : Moment width M S n}

/-- An exit takes the task out of the list, and its scheduling pass puts nobody in but the interrupt task. -/
theorem Moment.retired_of_exit (came : exit.Came) (orderly : exit.before.Orderly) (exits : exit.call? = some .exit)
    (isCaller : exit.before.current = some place) : Retired exit [] exit.after place := by
  rcases performs_or_keeps came with ⟨call, result, middle, performs⟩ | ⟨uncalled, -⟩
  · cases exits.symm.trans performs.call_eq
    have mailed := Kernel.perform_mails orderly.bootable orderly.formed performs.direct performs.performed place
    have mailEq : exit.after.mail place = middle.mail place := Kernel.mail_of_core performs.core_eq place
    have waitingEq : (exit.after.taskAt place).waiting = (middle.taskAt place).waiting :=
      congrFun (congrArg Core.waiting performs.core_eq) place
    have readyEq : exit.after.ready = middle.ready := congrArg Core.ready performs.core_eq
    have interruptTaskEq := (Moment.sameTable came).interruptTask_eq
    have performed := performs.performed
    cases Kernel.perform_ok performed with
    | exit exited =>
      obtain ⟨caller, known, scheduled⟩ := Kernel.exit_ok exited
      cases known.symm.trans isCaller
      have absent : place ∉ (exit.before.ready.remove place).toList := by
        rw [orderly.formed.toList_remove]
        exact orderly.formed.nodup.not_mem_erase
      have entrance (member : place ∈ middle.ready.toList) : exit.before.interruptTask = some place ∧
          Machine.interruptPending middle.machine = true :=
        (scheduled.entrance (orderly.formed.remove place) member).resolve_left absent
      have formedAfter : middle.ready.WellFormed := (scheduled.admits (orderly.formed.remove place)).1
      refine ⟨?_, ?_, ?_, ?_⟩
      · rw [waitingEq, scheduled.taskAt_eq, Kernel.taskAt_setWaiting, if_pos rfl]
      · intro uninterrupted member
        rw [readyEq] at member
        rw [interruptTaskEq] at uninterrupted
        exact uninterrupted (entrance member).1
      · intro moment member arrives
        cases List.mem_singleton.mp member
        rw [arrivals, exits] at arrives
        obtain ⟨-, isReady⟩ := List.mem_filter.mp arrives
        rw [Bool.and_eq_true, readyEq, formedAfter.contains_iff] at isReady
        exact sawInterrupt_of_performs performs rfl (entrance isReady.1).2
      · rw [mailEq, List.filterMap_nil]
        exact mailed.mail_eq_append rfl fun _ => by simp [Kernel.traffic]
  · cases uncalled.symm.trans exits

/-- What happens later, short of starting the task again and of calls of its own, keeps it retired. -/
theorem Retired.step (retired : Retired exit later moment.before place) (came : moment.Came)
    (orderly : moment.before.Orderly) (kept : moment.resets place = false) (silent : moment.isBy place = false) :
    Retired exit (later ++ [moment]) moment.after place := by
  have interruptTaskEq := (Moment.sameTable came).interruptTask_eq
  rcases Moment.performs_or_keeps came with ⟨call, result, middle, performs⟩ | ⟨uncalled, same⟩
  · have mailEq : moment.after.mail place = middle.mail place := Kernel.mail_of_core performs.core_eq place
    have waitingEq : (moment.after.taskAt place).waiting = (middle.taskAt place).waiting :=
      congrFun (congrArg Core.waiting performs.core_eq) place
    have readyEq : moment.after.ready = middle.ready := congrArg Core.ready performs.core_eq
    have notOwn := Moment.notOwn_of_performs performs silent
    have trafficEq := Moment.traffic_of_performs performs place
    rw [Moment.resets, trafficEq] at kept
    have untouched := Kernel.takesOut_of_silent kept notOwn
    have movement := Kernel.perform_moves orderly.bootable orderly.formed performs.direct performs.performed
    have mailed := Kernel.perform_mails orderly.bootable orderly.formed performs.direct performs.performed place
    have entrance (absent : place ∉ moment.before.ready.toList) (member : place ∈ middle.ready.toList) :=
      Kernel.interrupted_of_entrance orderly.formed orderly.current_mem performs.direct performs.performed kept
        retired.waiting_eq absent member
    refine ⟨?_, ?_, ?_, ?_⟩
    · rw [waitingEq, (Kernel.perform_touches performs.direct performs.performed untouched).waiting_eq]
      exact retired.waiting_eq
    · intro uninterrupted member
      rw [readyEq] at member
      rw [interruptTaskEq] at uninterrupted
      exact uninterrupted (entrance (retired.away uninterrupted) member).1
    · intro other member arrives
      rw [← List.cons_append, List.mem_append, List.mem_singleton] at member
      rcases member with early | rfl
      · exact retired.recalled other early arrives
      · rw [Moment.arrivals, performs.call_eq] at arrives
        obtain ⟨-, isReady⟩ := List.mem_filter.mp arrives
        rw [untouched, readyEq, Bool.false_or, Bool.and_eq_true, Bool.not_eq_true', movement.formed.contains_iff,
          Bool.eq_false_iff, ne_eq, orderly.formed.contains_iff] at isReady
        obtain ⟨isReady, absent⟩ := isReady
        have passes := Kernel.reschedules_of_entrance orderly performs.direct performs.performed retired.waiting_eq
          absent isReady
        exact Moment.sawInterrupt_of_performs performs passes (entrance absent isReady).2
    · rw [mailEq, mailed.mail_eq_append kept (Kernel.undrawn_of_silent notOwn), retired.mail_eq, filterMap_concat,
        List.append_assoc, Moment.arrival?, trafficEq]
  · have waitingEq : (moment.after.taskAt place).waiting = (moment.before.taskAt place).waiting :=
      congrFun (congrArg Core.waiting same) place
    have readyEq : moment.after.ready = moment.before.ready := congrArg Core.ready same
    refine ⟨?_, ?_, ?_, ?_⟩
    · rw [waitingEq]
      exact retired.waiting_eq
    · rw [interruptTaskEq, readyEq]
      exact retired.away
    · intro other member arrives
      rw [← List.cons_append, List.mem_append, List.mem_singleton] at member
      rcases member with early | rfl
      · exact retired.recalled other early arrives
      · rw [Moment.arrivals, uncalled] at arrives
        exact absurd arrives List.not_mem_nil
    · have quiet : moment.traffic place = .quiet := by rw [Moment.traffic, uncalled]
      rw [Kernel.mail_of_core same, retired.mail_eq, filterMap_concat, Moment.arrival?, quiet]
      exact (congrArg _ (List.append_nil _)).symm

namespace Run

/-- Other tasks are out of the list while they are retired, so the calls are not theirs anyway. -/
theorem retired (orderly : start.Orderly) (run : Run start (earlier ++ exit :: later) kernel)
    (exits : exit.call? = some .exit) (isCaller : exit.before.current = some place)
    (kept : ∀ moment ∈ later, moment.resets place = false)
    (silent : start.interruptTask = some place → ∀ moment ∈ later, moment.isBy place = false) :
    Retired exit later kernel place := by
  induction later using List.reverseRecOn generalizing kernel with
  | nil =>
    obtain ⟨before, came, rfl⟩ := run.of_concat
    exact exit.retired_of_exit came (before.orderly orderly) exits isCaller
  | append_singleton later moment ih =>
    rw [← List.cons_append, ← List.append_assoc] at run
    obtain ⟨before, came, rfl⟩ := run.of_concat
    have last : moment ∈ later ++ [moment] := List.mem_append_right _ (List.mem_singleton_self _)
    have sofar := ih before (fun other member => kept other (List.mem_append_left _ member))
      fun isInterruptTask other member => silent isInterruptTask other (List.mem_append_left _ member)
    have orderlyBefore := before.orderly orderly
    refine sofar.step came orderlyBefore (kept moment last) ?_
    by_cases isInterruptTask : start.interruptTask = some place
    · exact silent isInterruptTask moment last
    · have absent : place ∉ moment.before.ready.toList := by
        apply sofar.away
        rwa [before.sameTable.interruptTask_eq]
      have elsewhere : moment.before.current ≠ some place := fun isCurrent =>
        absent (orderlyBefore.current_mem place isCurrent)
      rw [Moment.isBy, beq_eq_false_iff_ne.mpr elsewhere, Bool.false_and]

/-- After a task exited, whatever happens short of starting it again: a task other than the interrupt task is neither
ready nor current; the interrupt task, as long as it makes no calls, becomes ready only in passes that saw an interrupt
pending. Its mailbox holds what it held and what arrived since, and a message that is sent to it now is taken or
refused by the ordinary rules, and does not wake it. -/
theorem exit_retires (booted : start.Booted) (run : Run start (earlier ++ exit :: later) kernel)
    (exits : exit.call? = some .exit) (isCaller : exit.before.current = some place)
    (kept : ∀ moment ∈ later, moment.resets place = false)
    (silent : start.interruptTask = some place → ∀ moment ∈ later, moment.isBy place = false) :
    (start.interruptTask ≠ some place → kernel.ready.contains place = false ∧ kernel.current ≠ some place) ∧
      (∀ moment ∈ exit :: later, place ∈ moment.arrivals → moment.SawInterrupt) ∧
      kernel.mail place = exit.before.mail place ++ later.filterMap (Moment.arrival? place) ∧
      ∀ sender receiver message, kernel.current = some sender → receiver.addresses sender place = true →
        ∃ result after, Kernel.perform (.send receiver message) kernel = .ok (.sent result) after ∧
          after.taskAt place = (kernel.taskAt place).offered (.ofIndex sender) message ∧
          (receiver ≠ .everyone → result = kernel.verdict sender place) ∧
          after.ready.contains place = kernel.ready.contains place := by
  have retired := run.retired booted.orderly exits isCaller kept silent
  have orderly := run.orderly booted.orderly
  refine ⟨?_, retired.recalled, retired.mail_eq, ?_⟩
  · intro uninterrupted
    have absent : place ∉ kernel.ready.toList := by
      apply retired.away
      rwa [run.sameTable.interruptTask_eq]
    refine ⟨?_, fun isCurrent => absent (orderly.current_mem place isCurrent)⟩
    rwa [Bool.eq_false_iff, ne_eq, orderly.formed.contains_iff]
  · intro sender receiver message isCurrent addressed
    exact Kernel.offers_of_unwaiting orderly retired.waiting_eq isCurrent message addressed

/-- The interrupt task of the demo retires, and the timer after it. An interrupt brings back the first and not the
second; the first could send to the second, which would not be woken. -/
theorem exit_retires_demo : ∃ first second raised pass kernel,
    Run Demo.started [first, second, raised, pass] kernel ∧ first.call? = some .exit ∧ second.call? = some .exit ∧
    kernel.current = some 0 ∧ pass.SawInterrupt ∧ kernel.ready.contains 1 = false ∧ kernel.mail 1 = [] ∧
    ∃ after, Kernel.perform (.send (.ofIndex 1) 7) kernel = .ok (.sent (.ok ())) after ∧
      (after.taskAt 1).mailbox.entries = [⟨.ofIndex 0, 7⟩] ∧ after.ready.contains 1 = false := by
  have computed : (replay? Demo.started [.call .exit, .call .exit, .outside HostMachine.raise, .call .schedule]).any
      (fun final => match final.1 with
        | [first, second, raised, pass] => decide (first.call? = some .exit ∧ second.call? = some .exit ∧
            first.before.current = some 0 ∧ second.before.current = some 1 ∧ second.before.mail 1 = [] ∧
            [second, raised, pass].all (fun moment => !moment.resets 0 && !moment.isBy 0) = true ∧
            [raised, pass].all (fun moment => !moment.resets 1) = true ∧
            [raised, pass].filterMap (Moment.arrival? 1) = [] ∧ 0 ∈ pass.arrivals ∧
            final.2.current = some 0 ∧ final.2.verdict 0 1 = .ok () ∧
            ((final.2.taskAt 1).offered (.ofIndex 0) 7).mailbox.entries = [⟨.ofIndex 0, 7⟩])
        | [] | [_] | [_, _] | [_, _, _] | _ :: _ :: _ :: _ :: _ :: _ => false) = true := by
    decide +kernel
  obtain ⟨history, kernel, run, facts⟩ := Run.of_replay? computed
  obtain ⟨first, second, raised, pass, rfl⟩ : ∃ first second raised pass, history = [first, second, raised, pass] := by
    split at facts
    · exact ⟨_, _, _, _, ‹_›⟩
    all_goals cases facts
  obtain ⟨firstExits, secondExits, isFirst, isSecond, mailEq, silent, kept, unsent, arrives, isCurrent, verdict,
    entriesEq⟩ := of_decide_eq_true facts
  have quiet (moment : Moment .eight HostMachine HostContext 4) (member : moment ∈ [second, raised, pass]) :
      moment.resets 0 = false ∧ moment.isBy 0 = false := by
    simpa using List.all_eq_true.mp silent moment member
  have keptSecond (moment : Moment .eight HostMachine HostContext 4) (member : moment ∈ [raised, pass]) :
      moment.resets 1 = false := by
    simpa using List.all_eq_true.mp kept moment member
  have firstRun : Run Demo.started ([] ++ first :: [second, raised, pass]) kernel := run
  have secondRun : Run Demo.started ([first] ++ second :: [raised, pass]) kernel := run
  obtain ⟨-, recalled, -, -⟩ := exit_retires Demo.booted_started firstRun firstExits isFirst
    (fun moment member => (quiet moment member).1) fun _ moment member => (quiet moment member).2
  obtain ⟨away, -, grown, offers⟩ := exit_retires Demo.booted_started secondRun secondExits isSecond keptSecond
    fun isInterruptTask => absurd isInterruptTask (by decide +kernel)
  have absent := (away (by decide +kernel)).1
  obtain ⟨result, after, sent, taskEq, answered, readyEq⟩ := offers 0 (.ofIndex 1) 7 isCurrent rfl
  cases (answered (by decide)).trans verdict
  refine ⟨first, second, raised, pass, kernel, run, firstExits, secondExits, isCurrent, ?_, absent, ?_, after, sent,
    ?_, readyEq.trans absent⟩
  · exact recalled pass (by simp) arrives
  · rw [grown, mailEq, unsent]
    rfl
  · rw [taskEq]
    exact entriesEq

end Run

end Histories

end CoopKernel
