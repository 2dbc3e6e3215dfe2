import Mathlib.Data.List.Chain
import CoopKernel.Machine.CortexM.Service
import CoopKernel.Proofs.Kernel.Replay
import CoopKernel.Proofs.Kernel.Views
import CoopKernel.Proofs.Machine.Protection
import CoopKernel.Proofs.Scheduling.Walk

/-! # The machine runs the current task

The kernel chooses a task in one place and hands the processor over in another. Along a run of traps
(`TrapRun`) the two stay together: on the host the task to restore is the current one, and the recorded
changes of address space are the changes of the current task, one for one; on a Cortex-M the saved pointer
names the current task, and the protection unit holds its regions (`TrapRun.installed`). Direct calls of
`wait`, `schedule` and their like are left out, since they choose a task and leave the hand-over to their
caller.
-/

namespace CoopKernel

variable {width : Width} {M S V : Type} {n : Nat}

/-- An action of a run of traps, as seen in a view of the machine: a trap, a change of saved registers, or a change of
the machine that does not show. -/
def Action.IsAround (view : M → V) : Action width M S n → Prop
  | .call asked => asked = .trap
  | .load _ _ => True
  | .outside change => ∀ machine, view (change machine) = view machine

/-- A run of traps on a kernel that was made from a table and started, with what happens around the traps. -/
structure TrapRun [Machine M S] (view : M → V) (table : Vector TaskDesc n) (machine : M) (first : Fin n)
    (history : List (Moment width M S n)) (kernel : Kernel width M S n) : Prop where
  launched : ∃ interruptTask fresh start, Kernel.new table interruptTask machine = .ok fresh ∧
    Kernel.init fresh = .ok (.ok first) start ∧ Run start history kernel
  around : ∀ moment ∈ history, moment.action.IsAround view

/-- The run of a list of actions on a kernel that is made from a table and started, with its first task. -/
def launch? [Machine M S] (table : Vector TaskDesc n) (interruptTask : TaskId) (machine : M)
    (actions : List (Action width M S n)) : Option (Fin n × List (Moment width M S n) × Kernel width M S n) :=
  match Kernel.new table interruptTask machine with
  | .error _ => none
  | .ok fresh =>
      match Kernel.init fresh with
      | .ok (.ok first) start => (replay? start actions).map fun final => (first, final)
      | _ => none

theorem TrapRun.of_launch? [Machine M S] {table : Vector TaskDesc n} {interruptTask : TaskId} {machine : M}
    {actions : List (Action width M S n)} (view : M → V)
    {check : Fin n × List (Moment width M S n) × Kernel width M S n → Bool}
    (computed : (launch? table interruptTask machine actions).any check = true)
    (around : ∀ action ∈ actions, action.IsAround view) :
    ∃ first history kernel, TrapRun view table machine first history kernel ∧
      check (first, history, kernel) = true := by
  unfold launch? at computed
  split at computed
  · cases computed
  · next fresh made =>
    split at computed
    · next first start began =>
      rw [Option.any_map] at computed
      obtain ⟨⟨history, kernel⟩, replayed, checked⟩ := (Option.any_eq_true ..).mp computed
      obtain ⟨run, rfl⟩ := replay?_eq_some_iff.mp replayed
      refine ⟨first, history, kernel, ⟨⟨interruptTask, fresh, start, made, began, run⟩, ?_⟩, checked⟩
      exact fun moment member => around _ (List.mem_map_of_mem member)
    · cases computed

/-- A moment around traps hands the processor over when the current task changes, and a trap answers with the task
that is current afterwards. -/
theorem Moment.handsOver [Machine M S] {moment : Moment width M S n} {view : M → V} (came : moment.Came)
    (orderly : moment.before.Orderly) (blind : Kernel.Blind view) (around : moment.action.IsAround view) :
    Kernel.HandsOver view moment.before moment.after ∧
      (moment.action = .call .trap → moment.answer.bind Answer.chosen? = moment.after.current) := by
  obtain ⟨before, action, answer, after⟩ := moment
  cases action with
  | load place change =>
    simp only [Came, Kernel.act, bind_ok_iff, modify_ok_iff, pure_ok_iff] at came
    obtain ⟨_, _, rfl, -, rfl⟩ := came
    refine ⟨.stays rfl rfl, ?_⟩
    intro isTrap
    cases isTrap
  | outside change =>
    simp only [Came, Kernel.act, bind_ok_iff, modify_ok_iff, pure_ok_iff] at came
    obtain ⟨_, _, rfl, -, rfl⟩ := came
    refine ⟨.stays rfl (around _), ?_⟩
    intro isTrap
    cases isTrap
  | call call =>
    have isTrap : call = .trap := around
    subst isTrap
    obtain ⟨result, _, performed, answered⟩ := bind_ok_iff.mp came
    obtain ⟨rfl, rfl⟩ := pure_ok_iff.mp answered
    obtain ⟨chosen, _, trapped, answered⟩ := bind_ok_iff.mp performed
    obtain ⟨rfl, rfl⟩ := pure_ok_iff.mp answered
    obtain ⟨currentEq, handsOver⟩ := Kernel.trap_handsOver blind orderly.bootable orderly.formed trapped
    exact ⟨handsOver, fun _ => currentEq.symm⟩

/-- What holds once the processor was handed to the first task, and is kept when it is handed on, holds along a run of
traps. -/
theorem TrapRun.invariant [Machine M S] {view : M → V} {table : Vector TaskDesc n} {machine : M} {first : Fin n}
    {history : List (Moment width M S n)} {kernel : Kernel width M S n}
    {Good : List (Moment width M S n) → Kernel width M S n → Prop}
    (trapRun : TrapRun view table machine first history kernel) (blind : Kernel.Blind view)
    (atFirst : ∀ (start : Kernel width M S n) (before : M), view before = view machine → start.current = some first →
      Kernel.Switched TaskId.nobody (.ofIndex first) before start.machine → Good [] start)
    (step : ∀ (history : List (Moment width M S n)) (moment : Moment width M S n), Good history moment.before →
      Kernel.HandsOver view moment.before moment.after →
      (moment.action = .call .trap → moment.answer.bind Answer.chosen? = moment.after.current) →
      Good (history ++ [moment]) moment.after) : Good history kernel := by
  obtain ⟨⟨interruptTask, fresh, start, made, began, run⟩, around⟩ := trapRun
  have orderly : start.Orderly := Kernel.Booted.orderly ⟨table, interruptTask, machine, fresh, first, made, began⟩
  induction run with
  | start =>
    obtain ⟨currentEq, before, viewEq, switched⟩ := Kernel.init_handsOver blind began
    rw [Kernel.new_machine made] at viewEq
    exact atFirst start before viewEq currentEq switched
  | @step history moment earlier came ih =>
    have sofar := ih fun other member => around other (List.mem_append_left _ member)
    have last : moment ∈ history ++ [moment] := List.mem_append_right _ (List.mem_singleton_self _)
    obtain ⟨handsOver, answered⟩ := moment.handsOver came (earlier.orderly orderly) blind (around moment last)
    exact step history moment sofar handsOver answered

/-- The change of the current task in a moment, if there is one. -/
def Moment.change? (moment : Moment width M S n) : Option (TaskId × TaskId) :=
  if moment.before.current = moment.after.current then none
  else some (.ofPlace? moment.before.current, .ofPlace? moment.after.current)

/-! ## The host -/

namespace HostMachine

/-- What the host has written down about the running task. -/
def handover (machine : HostMachine) : List (TaskId × TaskId) × TaskId := (machine.switches, machine.current)

@[simp] theorem handover_raise (machine : HostMachine) : machine.raise.handover = machine.handover := rfl

@[simp] theorem handover_acknowledge (machine : HostMachine) : machine.acknowledge.handover = machine.handover := rfl

@[simp] theorem handover_interruptDuringIdle (machine : HostMachine) :
    machine.interruptDuringIdle.handover = machine.handover := rfl

theorem blind_handover : Kernel.Blind handover := by
  constructor
  · intro before after woke
    change idle before = .ok () after at woke
    unfold idle at woke
    split at woke
    · cases woke
    · cases woke
      rfl
  · intro id desc before context after built
    cases built
    rfl

/-- The host restores the current task, and has recorded the changes of the current task as a chain of changes of
address space that begins with nobody. -/
structure Installed (first : Fin n) (history : List (Moment width HostMachine HostContext n))
    (kernel : Kernel width HostMachine HostContext n) : Prop where
  running : ∃ place, kernel.current = some place
  started : history = [] → kernel.current = some first
  current_eq : kernel.machine.current = .ofPlace? kernel.current
  target_eq : kernel.machine.switches.getLast?.map Prod.snd = some (.ofPlace? kernel.current)
  switches_eq : kernel.machine.switches = (TaskId.nobody, .ofIndex first) :: history.filterMap Moment.change?
  chained : kernel.machine.switches.IsChain fun earlier later => earlier.2 = later.1
  apart : ∀ switch ∈ kernel.machine.switches, switch.1 ≠ switch.2
  answered : ∀ moment ∈ history, moment.action = .call .trap →
    moment.answer.bind Answer.chosen? = moment.after.current

variable {first : Fin n} {history : List (Moment width HostMachine HostContext n)}
  {start : Kernel width HostMachine HostContext n}

theorem handover_of_switched {prev next : TaskId} {before after : HostMachine}
    (switched : Kernel.Switched prev next before after) :
    after.switches = before.switches ++ [(prev, next)] ∧ after.current = next := by
  obtain ⟨machine, switched, rfl⟩ := switched
  cases switched
  exact ⟨rfl, rfl⟩

theorem installed_of_switched {before : HostMachine} (unswitched : before.switches = [])
    (currentEq : start.current = some first)
    (switched : Kernel.Switched TaskId.nobody (.ofIndex first) before start.machine) : Installed first [] start := by
  obtain ⟨switchesEq, targetEq⟩ := handover_of_switched switched
  rw [unswitched, List.nil_append] at switchesEq
  constructor
  · exact ⟨first, currentEq⟩
  · intro _
    exact currentEq
  · rw [targetEq, currentEq]
    rfl
  · rw [switchesEq, currentEq]
    rfl
  · exact switchesEq
  · rw [switchesEq]
    exact List.isChain_singleton _
  · rw [switchesEq]
    intro switch member
    rw [List.mem_singleton.mp member]
    intro same
    have found := TaskId.within_ofIndex (Nat.le_trans start.fits (by decide)) first
    rw [← show TaskId.nobody = .ofIndex first from same] at found
    cases found
  · intro moment member
    exact absurd member List.not_mem_nil

theorem Installed.moment {moment : Moment width HostMachine HostContext n}
    (installed : Installed first history moment.before)
    (handsOver : Kernel.HandsOver handover moment.before moment.after)
    (answered : moment.action = .call .trap → moment.answer.bind Answer.chosen? = moment.after.current) :
    Installed first (history ++ [moment]) moment.after := by
  have answers (other : Moment width HostMachine HostContext n) (member : other ∈ history ++ [moment])
      (isTrap : other.action = .call .trap) : other.answer.bind Answer.chosen? = other.after.current := by
    rcases List.mem_append.mp member with early | last
    · exact installed.answered other early isTrap
    · cases List.mem_singleton.mp last
      exact answered isTrap
  have later (none : history ++ [moment] = []) : moment.after.current = some first :=
    absurd none (List.append_ne_nil_of_right_ne_nil _ (List.cons_ne_nil _ _))
  cases handsOver with
  | stays currentEq viewEq =>
    have switchesEq : moment.after.machine.switches = moment.before.machine.switches := congrArg Prod.fst viewEq
    have targetEq : moment.after.machine.current = moment.before.machine.current := congrArg Prod.snd viewEq
    have unchanged : moment.change? = none := if_pos currentEq.symm
    constructor
    · rw [currentEq]
      exact installed.running
    · exact later
    · rw [targetEq, currentEq]
      exact installed.current_eq
    · rw [switchesEq, currentEq]
      exact installed.target_eq
    · rw [switchesEq, installed.switches_eq, List.filterMap_append]
      simp [unchanged]
    · rw [switchesEq]
      exact installed.chained
    · rw [switchesEq]
      exact installed.apart
    · exact answers
  | @passes prev next machine isCaller isNext apart viewEq switched =>
    obtain ⟨switchesEq, targetEq⟩ := handover_of_switched switched
    have earlier : machine.switches = moment.before.machine.switches := congrArg Prod.fst viewEq
    rw [earlier] at switchesEq
    have small : n ≤ 128 := Nat.le_trans moment.before.fits (by decide)
    have changed : moment.change? = some (.ofIndex prev, .ofIndex next) := by
      rw [Moment.change?, isCaller, isNext, if_neg fun same => apart (Option.some.inj same).symm]
      rfl
    constructor
    · exact ⟨next, isNext⟩
    · exact later
    · rw [targetEq, isNext]
      rfl
    · rw [switchesEq, isNext, List.getLast?_concat]
      rfl
    · rw [switchesEq, installed.switches_eq, List.filterMap_append]
      simp [changed]
    · rw [switchesEq]
      refine installed.chained.append (List.isChain_singleton _) fun last isLast other isOther => ?_
      cases isOther
      -- the last change so far was to the task that traps
      have target := installed.target_eq
      rw [isLast, isCaller] at target
      exact Option.some.inj target
    · rw [switchesEq]
      intro switch member
      rcases List.mem_append.mp member with early | last
      · exact installed.apart switch early
      · rw [List.mem_singleton.mp last]
        exact fun same => apart (TaskId.ofIndex_inj small same).symm
    · exact answers

end HostMachine

/-! ## The Cortex-M -/

namespace CortexM

/-- What a Cortex-M holds about the running task: the saved pointer and the log of register writes, beside the table by
which it programs the regions. -/
def handover (machine : CortexM) : List TaskDesc × TaskId × List RegisterWrite :=
  (machine.table, machine.saved, machine.log)

@[simp] theorem handover_pend (machine : CortexM) (line : Nat) : (machine.pend line).handover = machine.handover := rfl

@[simp] theorem handover_unpend (machine : CortexM) (line : Nat) :
    (machine.unpend line).handover = machine.handover := rfl

@[simp] theorem handover_scriptWakeup (machine : CortexM) (line : Nat) :
    (machine.scriptWakeup line).handover = machine.handover := rfl

theorem blind_handover : Kernel.Blind handover := by
  constructor
  · intro before after woke
    change sleep before = .ok () after at woke
    unfold sleep at woke
    split at woke
    · cases woke
      rfl
    · cases woke
    · split at woke
      · cases woke
      · cases woke
        rfl
  · intro id desc before context after built
    change buildContext id desc before = .ok context after at built
    unfold buildContext at built
    split at built
    · cases built
    · cases built
      rfl

/-- The saved pointer of a Cortex-M names the current task, so its registers are the ones that are restored, and the
protection unit holds the regions of that task, and behind them what it held before. -/
structure Installed (table : Vector TaskDesc n) (before : ProtectionUnit) (place : Fin n)
    (kernel : Kernel width CortexM Context n) : Prop where
  current_eq : kernel.current = some place
  saved_eq : savedPlace kernel = some place
  restored_eq : restored kernel = some (kernel.taskAt place).context
  programmed : ∃ words, taskWords (table.get place) = .ok words ∧ kernel.machine.protection.Programmed before words
  table_eq : kernel.machine.table = table.toList

variable {table : Vector TaskDesc n} {before : ProtectionUnit} {place : Fin n}
  {kernel after : Kernel width CortexM Context n}

theorem protection_of_handover {one other : CortexM} (same : one.handover = other.handover) :
    one.protection = other.protection := by
  have logEq : one.log = other.log := congrArg (fun view => view.2.2) same
  rw [protection, history, logEq]
  rfl

/-- The machine finds the description of a task in its table. -/
theorem lookup_ofIndex (small : n ≤ maxTasks) {machine : CortexM} (tableEq : machine.table = table.toList) (place : Fin n) :
    (TaskId.ofIndex place).index?.bind (machine.table[·]?) = some (table.get place) := by
  have inByte : place.val < 128 := Nat.lt_of_lt_of_le place.isLt (Nat.le_trans small (by decide))
  rw [TaskId.index?_ofIndex inByte, Option.bind_some, tableEq, Vector.getElem?_toList,
    Vector.getElem?_eq_getElem place.isLt]
  rfl

/-- Handing the processor over to a task of the table installs it, also after something that does not show. -/
theorem installed_of_switched {prev : TaskId} {machine unseen : CortexM} (tableEq : machine.table = table.toList)
    (viewEq : unseen.handover = machine.handover) (isCurrent : kernel.current = some place)
    (switched : Kernel.Switched prev (.ofIndex place) unseen kernel.machine) :
    Installed table machine.protection place kernel := by
  have small : n ≤ 128 := Nat.le_trans kernel.fits (by decide)
  rw [← protection_of_handover viewEq]
  rw [← show unseen.table = machine.table from congrArg Prod.fst viewEq] at tableEq
  obtain ⟨guarded, switched, machineEq⟩ := switched
  change switchSpace (.ofIndex place) unseen = .ok () guarded at switched
  have found := lookup_ofIndex kernel.fits tableEq place
  unfold switchSpace at switched
  rw [found] at switched
  obtain ⟨programmed, guardedEq⟩ := protect_ok switched
  have saved : savedPlace kernel = some place := by
    rw [savedPlace, machineEq]
    exact TaskId.within_ofIndex small place
  constructor
  · exact isCurrent
  · exact saved
  · rw [restored, saved]
    rfl
  · rw [machineEq]
    exact programmed
  · rw [machineEq]
    change guarded.table = table.toList
    rw [guardedEq]
    exact tableEq

/-- The current task stays installed when nothing shows in the hand-over. -/
theorem Installed.stays (installed : Installed table before place kernel) (currentEq : after.current = kernel.current)
    (viewEq : after.machine.handover = kernel.machine.handover) : Installed table before place after := by
  have tableEq : after.machine.table = kernel.machine.table := congrArg Prod.fst viewEq
  have savedEq : after.machine.saved = kernel.machine.saved := congrArg (fun view => view.2.1) viewEq
  have saved : savedPlace after = some place := by
    rw [savedPlace, savedEq]
    exact installed.saved_eq
  constructor
  · exact currentEq.trans installed.current_eq
  · exact saved
  · rw [restored, saved]
    rfl
  · rw [protection_of_handover viewEq]
    exact installed.programmed
  · exact tableEq.trans installed.table_eq

theorem Installed.handsOver (installed : Installed table before place kernel)
    (handsOver : Kernel.HandsOver handover kernel after) : ∃ next, Installed table before next after := by
  cases handsOver with
  | stays currentEq viewEq => exact ⟨place, installed.stays currentEq viewEq⟩
  | @passes prev next machine isCaller isNext apart viewEq switched =>
    have renewed := installed_of_switched installed.table_eq viewEq isNext switched
    obtain ⟨words, found, programmed⟩ := renewed.programmed
    obtain ⟨earlier, foundEarlier, programmedEarlier⟩ := installed.programmed
    have same : earlier.length = words.length := (length_taskWords foundEarlier).trans (length_taskWords found).symm
    exact ⟨next, isNext, renewed.saved_eq, renewed.restored_eq,
      ⟨words, found, programmed.renew programmedEarlier same⟩, renewed.table_eq⟩

end CortexM

/-! ## Both machines -/

/-- A Cortex-M for the demo, whose interrupt task serves one line. -/
def Demo.board : CortexM := .start Demo.table.toList [5] ⟨0, []⟩ 0 none

namespace TrapRun

theorem installed_board {table : Vector TaskDesc n} {machine : CortexM} {first : Fin n}
    {history : List (Moment width CortexM CortexM.Context n)} {kernel : Kernel width CortexM CortexM.Context n}
    (tableEq : machine.table = table.toList)
    (trapRun : TrapRun CortexM.handover table machine first history kernel) :
    ∃ place, CortexM.Installed table machine.protection place kernel := by
  apply trapRun.invariant CortexM.blind_handover
  · intro start before viewEq currentEq switched
    exact ⟨first, CortexM.installed_of_switched tableEq viewEq currentEq switched⟩
  · intro history moment sofar handsOver _
    obtain ⟨place, installed⟩ := sofar
    exact installed.handsOver handsOver

/-- After the start, and after every trap, the machine runs the current task: a host that has not changed address spaces
before, and a Cortex-M that programs regions by the kernel's table. -/
theorem installed :
    (∀ (width : Width) (n : Nat) (table : Vector TaskDesc n) (machine : HostMachine) (first : Fin n)
        (history : List (Moment width HostMachine HostContext n)) (kernel : Kernel width HostMachine HostContext n),
      machine.switches = [] → TrapRun HostMachine.handover table machine first history kernel →
        HostMachine.Installed first history kernel) ∧
      ∀ (width : Width) (n : Nat) (table : Vector TaskDesc n) (machine : CortexM) (first : Fin n)
        (history : List (Moment width CortexM CortexM.Context n)) (kernel : Kernel width CortexM CortexM.Context n),
      machine.table = table.toList → TrapRun CortexM.handover table machine first history kernel →
        ∃ place, CortexM.Installed table machine.protection place kernel := by
  constructor
  · intro width n table machine first history kernel unswitched trapRun
    apply trapRun.invariant HostMachine.blind_handover
    · intro start before viewEq currentEq switched
      exact HostMachine.installed_of_switched ((congrArg Prod.fst viewEq).trans unswitched) currentEq switched
    · intro history moment sofar handsOver answered
      exact sofar.moment handsOver answered
  · intro width n table machine first history kernel tableEq trapRun
    exact trapRun.installed_board tableEq

/-- In the demo an interrupt brings the interrupt task back while one of the equals yields, and another one while the
last ready task exits. On the board a line that becomes pending brings it back while the timer yields, and the
scripted one while the kernel sleeps. -/
theorem installed_demo :
    (∃ first history kernel, TrapRun HostMachine.handover Demo.table {} first history kernel ∧
      kernel.machine.switches = [(.nobody, .ofIndex 0), (.ofIndex 0, .ofIndex 1), (.ofIndex 1, .ofIndex 2),
        (.ofIndex 2, .ofIndex 0), (.ofIndex 0, .ofIndex 3), (.ofIndex 3, .ofIndex 2), (.ofIndex 2, .ofIndex 0)] ∧
      HostMachine.Installed first history (kernel : Kernel .eight HostMachine HostContext 4)) ∧
    ∃ first history kernel, TrapRun CortexM.handover Demo.table Demo.board first history kernel ∧
      kernel.machine.slept = 1 ∧ kernel.current = some 0 ∧
      ∃ place, CortexM.Installed Demo.table Demo.board.protection place
        (kernel : Kernel .eight CortexM CortexM.Context 4) := by
  constructor
  · have computed : (launch? Demo.table (.ofIndex 0) ({} : HostMachine)
        ([.load 0 (·.load 4 []), .call .trap, .load 1 (·.load 0 [0xffffffff]), .call .trap, .outside HostMachine.raise,
          .load 2 (·.load 1 []), .call .trap, .outside HostMachine.acknowledge, .load 0 (·.load 4 []), .call .trap,
          .load 3 (·.load 4 []), .call .trap, .outside HostMachine.interruptDuringIdle, .load 2 (·.load 4 []),
          .call .trap] : List (Action .eight HostMachine HostContext 4))).any (fun final =>
        decide (final.2.2.machine.switches = [(.nobody, .ofIndex 0), (.ofIndex 0, .ofIndex 1),
          (.ofIndex 1, .ofIndex 2), (.ofIndex 2, .ofIndex 0), (.ofIndex 0, .ofIndex 3), (.ofIndex 3, .ofIndex 2),
          (.ofIndex 2, .ofIndex 0)])) = true := by
      decide +kernel
    obtain ⟨first, history, kernel, trapRun, switchesEq⟩ :=
      of_launch? HostMachine.handover computed (by simp [Action.IsAround])
    exact ⟨first, history, kernel, trapRun, of_decide_eq_true switchesEq,
      installed.1 _ _ _ _ _ _ _ rfl trapRun⟩
  · have computed : (launch? Demo.table (.ofIndex 0) Demo.board
        ([.load 0 (·.setWords [(7, 4)]), .call .trap, .outside (·.pend 5), .load 1 (·.setWords [(7, 1)]), .call .trap,
          .outside (·.unpend 5), .load 0 (·.setWords [(7, 4)]), .call .trap, .load 1 (·.setWords [(7, 4)]), .call .trap,
          .load 2 (·.setWords [(7, 4)]), .call .trap, .outside (·.scriptWakeup 5), .load 3 (·.setWords [(7, 4)]),
          .call .trap] : List (Action .eight CortexM CortexM.Context 4))).any (fun final =>
        decide (final.2.2.machine.slept = 1 ∧ final.2.2.current = some 0)) = true := by
      decide +kernel
    obtain ⟨first, history, kernel, trapRun, facts⟩ := of_launch? CortexM.handover computed (by simp [Action.IsAround])
    obtain ⟨slept, isCurrent⟩ := of_decide_eq_true facts
    exact ⟨first, history, kernel, trapRun, slept, isCurrent, installed.2 _ _ _ _ _ _ _ rfl trapRun⟩

end TrapRun

end CoopKernel
