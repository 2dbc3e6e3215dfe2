import CoopKernel.Proofs.Kernel.Faultless
import CoopKernel.Proofs.Machine.Matching
import CoopKernel.Proofs.Trap.Handover
import CoopKernel.Proofs.Trap.Sharing

/-! # The host and the Cortex-M run the same kernel

The host stand-in is there so that what holds on it holds on the board. A `Duet` is a kernel on each of
them, started on the same table and fed the same traps, with whatever else happens to the machines in
between, as long as their interrupts match. On a table whose sections the board accepts, every trap that
comes back on the host comes back on the board; the kernels stay in step, and the callers read the same
results (`Duet.in_step`).
-/

namespace CoopKernel

variable {width : Width} {n : Nat}

/-! ## The machines as twins -/

/-- Machines for kernels on a table: their interrupts match, and the Cortex-M programs its regions by the table. -/
structure Alongside (table : Vector TaskDesc n) (host : HostMachine) (board : CortexM) : Prop where
  matched : Matched host board
  table_eq : board.table = table.toList

/-- On a table that a Cortex-M accepts, it does what the host does. -/
theorem twins_alongside {table : Vector TaskDesc n} (small : n ≤ maxTasks)
    (accepts : ∀ place, CortexM.Accepts (table.get place)) : Twins (Alongside table) table.get where
  pending := by
    intro host board alongside
    rw [Bool.eq_iff_iff]
    exact alongside.matched.pending.trans CortexM.interruptPending_iff.symm
  idle := by
    intro host board after alongside woke
    obtain ⟨later, slept, matched⟩ := alongside.matched.idle woke
    exact ⟨later, slept, matched, (CortexM.table_sleep slept).trans alongside.table_eq⟩
  build := by
    intro host board after context place alongside built
    cases built
    obtain ⟨context, memory, built⟩ := (accepts place).buildContext_ok (.ofIndex place) board
    refine ⟨context, _, built, ?_, alongside.table_eq⟩
    apply alongside.matched.aside
    · rfl
    · rfl
  switch := by
    intro host board after prev next alongside switched
    cases switched
    obtain ⟨log, guarded⟩ := (accepts next).protect_ok board
    have found := CortexM.lookup_ofIndex small alongside.table_eq next
    have switched : CortexM.switchSpace (.ofIndex next) board = .ok () { board with log := log } := by
      rw [CortexM.switchSpace, found]
      exact guarded
    refine ⟨_, switched, ?_, alongside.table_eq⟩
    apply alongside.matched.aside
    · rfl
    · rfl
  name := by
    intro host board id alongside
    refine ⟨?_, alongside.table_eq⟩
    apply alongside.matched.aside
    · rfl
    · rfl

/-- Contexts of a task on both machines that hold the same call. -/
theorem sharedRegisters_mirrors :
    SharedRegisters fun (saved : HostContext) (context : CortexM.Context) => context.Mirrors saved where
  number mirrors := mirrors.number_eq
  argument mirrors := funext fun i => mirrors.register_eq (i.castAdd 1)
  setResult mirrors := mirrors.setResult

/-! ## Duets -/

/-- A kernel on the host and one on a Cortex-M that were started on one table, on machines that matched, and took the
same traps since: before each, the current task's registers were set to hold the same call, as loading it does
(`CortexM.Context.mirrors_load`). Outside of traps anything may happen to the machines that leaves them matched. -/
inductive Duet (table : Vector TaskDesc n) (interruptTask : TaskId) :
    Kernel width HostMachine HostContext n → Kernel width CortexM CortexM.Context n → Prop
  | boot {host : HostMachine} {board : CortexM} {fresh start : Kernel width HostMachine HostContext n}
      {fresh' start' : Kernel width CortexM CortexM.Context n} {first first' : Fin n}
      (alongside : Alongside table host board) (made : Kernel.new table interruptTask host = .ok fresh)
      (began : Kernel.init fresh = .ok (.ok first) start) (made' : Kernel.new table interruptTask board = .ok fresh')
      (began' : Kernel.init fresh' = .ok (.ok first') start') : Duet table interruptTask start start'
  | outside {kernel : Kernel width HostMachine HostContext n} {other : Kernel width CortexM CortexM.Context n}
      {host : HostMachine} {board : CortexM} (duet : Duet table interruptTask kernel other)
      (alongside : Alongside table host board) :
      Duet table interruptTask { kernel with machine := host } { other with machine := board }
  | trap {kernel after : Kernel width HostMachine HostContext n} {other later : Kernel width CortexM CortexM.Context n}
      {place place' chosen chosen' : Fin n} {saved : HostContext} {context : CortexM.Context}
      (duet : Duet table interruptTask kernel other) (isCurrent : kernel.current = some place)
      (isCurrent' : other.current = some place') (mirrors : context.Mirrors saved)
      (came : Kernel.trap (kernel.changeContext place fun _ => saved) = .ok chosen after)
      (came' : Kernel.trap (other.changeContext place' fun _ => context) = .ok chosen' later) :
      Duet table interruptTask after later

/-- What kernels on two machines agree on when they are in step. -/
structure InStep (kernel : Kernel width HostMachine HostContext n) (other : Kernel width CortexM CortexM.Context n) :
    Prop where
  current_eq : other.current = kernel.current
  ready_eq : other.ready = kernel.ready
  waiting_eq : ∀ place, (other.taskAt place).waiting = (kernel.taskAt place).waiting
  mailbox_eq : ∀ place, (other.taskAt place).mailbox = (kernel.taskAt place).mailbox
  trace_eq : other.trace = kernel.trace

theorem Kernel.Paired.inStep {alike : HostMachine → CortexM → Prop} {table : Fin n → TaskDesc}
    {kernel : Kernel width HostMachine HostContext n} {other : Kernel width CortexM CortexM.Context n}
    (paired : Kernel.Paired alike table kernel other) : InStep kernel other where
  current_eq := paired.current_eq
  ready_eq := paired.ready_eq
  waiting_eq := paired.waiting_eq
  mailbox_eq := paired.mailbox_eq
  trace_eq := paired.trace_eq

/-- A trap on both machines: the host stops for want of an interrupt, or both come back with the same task, in step, and
with the same results for the caller unless it retired. -/
inductive TrapInStep (place : Fin n) (kernel : Kernel width HostMachine HostContext n)
    (other : Kernel width CortexM CortexM.Context n) : Prop
  | stops {after : Kernel width HostMachine HostContext n} (stopped : Kernel.trap kernel = .error .idleForever after)
  | comes {chosen : Fin n} {after : Kernel width HostMachine HostContext n}
      {later : Kernel width CortexM CortexM.Context n} (came : Kernel.trap kernel = .ok chosen after)
      (came' : Kernel.trap other = .ok chosen later) (inStep : InStep after later)
      (results : (kernel.taskAt place).context.number ≠ Syscall.exit.number →
        ∀ i : Fin 4, (later.taskAt place).context.words.get (i.castAdd 22) = (after.taskAt place).context.registers.get i)

namespace Duet

variable {table : Vector TaskDesc n} {interruptTask : TaskId} {kernel : Kernel width HostMachine HostContext n}
  {other : Kernel width CortexM CortexM.Context n}

/-- The host's part of a duet is a run. -/
theorem hostRun (duet : Duet table interruptTask kernel other) :
    ∃ start history, start.Booted ∧ Run start history kernel := by
  induction duet with
  | @boot host _ fresh start _ _ first _ _ made began _ _ =>
    exact ⟨start, [], ⟨table, interruptTask, host, fresh, first, made, began⟩, .start⟩
  | @outside kernel _ host _ duet _ ih =>
    obtain ⟨start, history, booted, run⟩ := ih
    have came : Moment.Came ⟨kernel, .outside fun _ => host, none, { kernel with machine := host }⟩ := rfl
    exact ⟨start, _, booted, run.step came⟩
  | @trap kernel after _ _ place _ chosen _ saved _ duet isCurrent _ _ came _ ih =>
    obtain ⟨start, history, booted, run⟩ := ih
    have loaded := run.step (Moment.came_load kernel place fun _ => saved)
    exact ⟨start, _, booted, loaded.step (Moment.came_of_trap came)⟩

/-- A trap with the same call on both machines: the board follows the host, and the results of the call are the same in
the caller's registers unless it exited. -/
theorem follows_load_trap {place chosen : Fin n} {saved : HostContext} {context : CortexM.Context}
    {after : Kernel width HostMachine HostContext n} (accepts : ∀ place, CortexM.Accepts (table.get place))
    (paired : Kernel.Paired (Alongside table) table.get kernel other) (isCurrent : kernel.current = some place)
    (mirrors : context.Mirrors saved)
    (came : Kernel.trap (kernel.changeContext place fun _ => saved) = .ok chosen after) :
    ∃ later, Kernel.trap (other.changeContext place fun _ => context) = .ok chosen later ∧
      Kernel.Paired (Alongside table) table.get after later ∧
        (saved.number ≠ Syscall.exit.number →
          (later.taskAt place).context.Mirrors (after.taskAt place).context) := by
  have twins := twins_alongside kernel.fits accepts
  have loaded := paired.changeContext place (fun _ => saved) fun _ => context
  have same : CortexM.Context.Mirrors ((other.changeContext place fun _ => context).taskAt place).context
      ((kernel.changeContext place fun _ => saved).taskAt place).context := by
    rw [Kernel.context_changeContext, Kernel.context_changeContext]
    exact mirrors
  obtain ⟨later, came', laterPaired, mirrored⟩ :=
    Kernel.follows_trap twins sharedRegisters_mirrors loaded isCurrent same came
  refine ⟨later, came', laterPaired, fun returns => mirrored fun exits => returns ?_⟩
  rw [Kernel.asked, Kernel.context_changeContext] at exits
  exact (Syscall.number_of_ofNumber? exits).symm

/-- Kernels in a duet are paired. -/
theorem paired (accepts : ∀ place, CortexM.Accepts (table.get place)) (duet : Duet table interruptTask kernel other) :
    Kernel.Paired (Alongside table) table.get kernel other := by
  have twins := twins_alongside kernel.fits accepts
  induction duet with
  | boot alongside made began made' began' =>
    obtain ⟨fresh', again, freshPaired⟩ := Kernel.Paired.of_new alongside made
    cases made'.symm.trans again
    obtain ⟨start', again, startPaired⟩ := Kernel.follows_init twins freshPaired _ _ began
    cases began'.symm.trans again
    exact startPaired
  | outside duet alongside ih => exact ih.setMachine alongside
  | trap duet isCurrent isCurrent' mirrors came came' ih =>
    cases isCurrent'.symm.trans (ih.current_eq.trans isCurrent)
    obtain ⟨later, again, laterPaired, -⟩ := follows_load_trap accepts ih isCurrent mirrors came
    cases came'.symm.trans again
    exact laterPaired

/-- On a table that the Cortex-M accepts, both machines are started or neither is, and with the same first task. From
then on both kernels are in step, and there is a task that runs. If it traps, whatever the call is, the host stops for
want of an interrupt, or both come back, in step and with the same results. -/
theorem in_step (accepts : ∀ place, CortexM.Accepts (table.get place)) :
    (∀ (host : HostMachine) (board : CortexM) (fresh : Kernel width HostMachine HostContext n),
      Alongside table host board → Kernel.new table interruptTask host = .ok fresh →
        (0 < n → ∃ first start, Kernel.init fresh = .ok (.ok first) start) ∧
          ∃ fresh' : Kernel width CortexM CortexM.Context n, Kernel.new table interruptTask board = .ok fresh' ∧
            ∀ first start, Kernel.init fresh = .ok (.ok first) start →
              ∃ start', Kernel.init fresh' = .ok (.ok first) start') ∧
      ∀ (kernel : Kernel width HostMachine HostContext n) (other : Kernel width CortexM CortexM.Context n),
        Duet table interruptTask kernel other → InStep kernel other ∧
          ∃ place, kernel.current = some place ∧ ∀ saved context, CortexM.Context.Mirrors context saved →
            TrapInStep place (kernel.changeContext place fun _ => saved)
              (other.changeContext place fun _ => context) := by
  constructor
  · intro host board fresh alongside made
    constructor
    · intro occupied
      apply Kernel.init_comes_back _ occupied
      intro place
      rw [(Kernel.new_ok made).desc_eq]
      exact (accepts place).firstEmpty_eq
    · obtain ⟨fresh', made', paired⟩ := Kernel.Paired.of_new alongside made
      refine ⟨fresh', made', fun first start began => ?_⟩
      obtain ⟨start', began', -⟩ := Kernel.follows_init (twins_alongside fresh.fits accepts) paired _ _ began
      exact ⟨start', began'⟩
  · intro kernel other duet
    have paired := duet.paired accepts
    obtain ⟨start, history, booted, run⟩ := duet.hostRun
    obtain ⟨place, isCurrent⟩ := Option.ne_none_iff_exists'.mp (run.current_ne_none booted)
    refine ⟨paired.inStep, place, isCurrent, fun saved context mirrors => ?_⟩
    cases outcome : Kernel.trap (kernel.changeContext place fun _ => saved) with
    | ok chosen after =>
      obtain ⟨later, came', laterPaired, mirrored⟩ := follows_load_trap accepts paired isCurrent mirrors outcome
      refine .comes outcome came' laterPaired.inStep fun returns => (mirrored ?_).register_eq
      rw [Kernel.context_changeContext] at returns
      exact returns
    | error fault after =>
      have orderly := (run.orderly booted.orderly).of_core (Kernel.core_changeContext place fun _ => saved)
      have present : (kernel.changeContext place fun _ => saved).current ≠ none := by
        change kernel.current ≠ none
        rw [isCurrent]
        exact Option.some_ne_none place
      have stuck := (Kernel.trap_error orderly.bootable orderly.formed outcome).stuck present
      cases stuck.fault_eq
      exact .stops outcome

end Duet

namespace Demo

/-- The table of a task that is alone, and accepts mail from anyone. -/
def solo : Vector TaskDesc 1 := #v[⟨⟨1⟩, .full, ⟨0x0800a000, 0x1000⟩, ⟨0x20003000, 0x400⟩, ⟨0x20003400, 0x400⟩⟩]

/-- A kernel on that table, with the task for interrupts, on a host that has one interrupt to come. -/
def soloFresh : Kernel .eight HostMachine HostContext 1 where
  tasks := solo.map fun desc => ⟨desc, {}, TaskMask.empty, Mailbox.empty⟩
  ready := ReadyList.empty
  current := none
  interruptTask := (TaskId.ofIndex 0).within 1
  machine := { scheduled := 1 }
  trace := KernelTrace.new
  fits := by decide

theorem new_solo : Kernel.new solo (.ofIndex 0) ({ scheduled := 1 } : HostMachine) = .ok soloFresh := rfl

/-- The task is started, and waits for anyone. The answer is how often the host slept. -/
def soloWait : KernelM .eight HostMachine HostContext 1 Nat := do
  let _ ← Kernel.init
  modify (·.changeContext 0 fun _ => HostContext.load {} 0 [0xffffffff, 0, 0, 0])
  let _ ← Kernel.trap
  return (← get).machine.idled

/-- A board for the table, whose script has one interrupt to come. -/
def soloBoard : CortexM := (CortexM.start solo.toList [5] ⟨0, []⟩ 0 none).scriptWakeup 5

theorem solo_accepts (place : Fin 1) : CortexM.Accepts (solo.get place) := by
  match place with
  | 0 =>
    constructor
    · exact ⟨0x20003798, by decide +kernel⟩
    · exact ⟨_, rfl⟩

theorem solo_alongside : Alongside solo { scheduled := 1 } soloBoard := by
  refine ⟨⟨?_, ?_⟩, rfl⟩
  · rw [← CortexM.interruptPending_iff]
    decide +kernel
  · exact ⟨_, rfl, CortexM.interruptPending_iff.mp rfl, trivial⟩

end Demo

namespace Duet

/-- The task of the small table is the interrupt task. It waits for anyone, and there is nobody else: both machines sleep
once, and it is back. -/
theorem in_step_demo : ∃ kernel other after later, Duet Demo.solo (.ofIndex 0) kernel other ∧
    Kernel.trap (kernel.changeContext 0 fun _ => HostContext.load {} 0 [0xffffffff, 0, 0, 0]) = .ok 0 after ∧
    Kernel.trap (other.changeContext 0 fun _ =>
      CortexM.Context.setWords {} [(0, 0xffffffff), (1, 0), (2, 0), (3, 0), (7, 0)]) = .ok 0 later ∧
    after.machine.idled = 1 ∧ InStep (after : Kernel .eight HostMachine HostContext 1) later ∧
    ∀ i : Fin 4, (later.taskAt 0).context.words.get (i.castAdd 22) = (after.taskAt 0).context.registers.get i := by
  have computed : (match Demo.soloWait Demo.soloFresh with
      | .ok idled _ => decide (idled = 1)
      | .error _ _ => false) = true := by
    decide +kernel
  obtain ⟨boots, steps⟩ := @in_step .eight 1 Demo.solo (.ofIndex 0) Demo.solo_accepts
  obtain ⟨starts, fresh', made', follows⟩ := boots _ _ _ Demo.solo_alongside Demo.new_solo
  obtain ⟨first, start, began⟩ := starts (by decide)
  obtain ⟨start', began'⟩ := follows first start began
  have duet : Duet Demo.solo (.ofIndex 0) start start' := .boot Demo.solo_alongside Demo.new_solo began made' began'
  obtain ⟨-, place, isCurrent, trapsInStep⟩ := steps start start' duet
  cases Subsingleton.elim place 0
  have loaded : Demo.soloWait Demo.soloFresh =
      (do
        let _ ← Kernel.trap
        return (← get).machine.idled : KernelM .eight HostMachine HostContext 1 Nat)
        (start.changeContext 0 fun _ => HostContext.load {} 0 [0xffffffff, 0, 0, 0]) := by
    rw [Demo.soloWait, bind_of_ok began]
    rfl
  rw [loaded] at computed
  cases trapsInStep _ _ (CortexM.Context.mirrors_load {} {} 0 0xffffffff 0 0 0) with
  | stops stopped =>
    rw [bind_of_error stopped] at computed
    cases computed
  | @comes chosen after later came came' inStep results =>
    cases Subsingleton.elim chosen 0
    refine ⟨start, start', after, later, duet, came, came', ?_, inStep, ?_⟩
    · rw [bind_of_ok came] at computed
      exact of_decide_eq_true computed
    · apply results
      rw [Kernel.context_changeContext]
      decide

end Duet

end CoopKernel
