import CoopKernel.Proofs.Kernel.Run
import CoopKernel.Config.Demo
import CoopKernel.Config.Resolve

/-! # Replaying actions

A kernel and a list of actions determine at most one run: `replay?` lets the actions happen one after
the other, and gives up at the first fault. `replay?_eq_some_iff` says that it finds the runs and
nothing else, so statements about runs can be looked at on runs that are computed. The table of the
demo application on the host is there for that.
-/

namespace CoopKernel

variable {width : Width} {M S : Type} {n : Nat} [Machine M S]

/-- Let one more action happen at the end of a run. -/
def extend? (sofar : List (Moment width M S n) × Kernel width M S n) (action : Action width M S n) :
    Option (List (Moment width M S n) × Kernel width M S n) :=
  match Kernel.act action sofar.2 with
  | .ok answer after => some (sofar.1 ++ [⟨sofar.2, action, answer, after⟩], after)
  | .error _ _ => none

/-- The run of a list of actions, unless one of them ends with a fault. -/
def replay? (start : Kernel width M S n) (actions : List (Action width M S n)) :
    Option (List (Moment width M S n) × Kernel width M S n) :=
  actions.foldlM extend? ([], start)

theorem replay?_concat (start : Kernel width M S n) (actions : List (Action width M S n))
    (action : Action width M S n) :
    replay? start (actions ++ [action]) = (replay? start actions).bind (extend? · action) := by
  simp [replay?]

theorem extend?_eq_some_iff {history later : List (Moment width M S n)} {kernel after : Kernel width M S n}
    {action : Action width M S n} :
    extend? (history, kernel) action = some (later, after) ↔
      ∃ answer, Kernel.act action kernel = .ok answer after ∧
        later = history ++ [⟨kernel, action, answer, after⟩] := by
  unfold extend?
  cases Kernel.act action kernel with
  | error fault middle => simp
  | ok answer middle =>
    simp only [Option.some.injEq, Prod.mk.injEq, EStateM.Result.ok.injEq]
    constructor
    · rintro ⟨rfl, rfl⟩
      exact ⟨answer, ⟨rfl, rfl⟩, rfl⟩
    · rintro ⟨_, ⟨rfl, rfl⟩, rfl⟩
      exact ⟨rfl, rfl⟩

/-- Replay finds the run of the given actions, and there is no other. -/
theorem replay?_eq_some_iff {start kernel : Kernel width M S n} {actions : List (Action width M S n)}
    {history : List (Moment width M S n)} :
    replay? start actions = some (history, kernel) ↔ Run start history kernel ∧
      history.map Moment.action = actions := by
  constructor
  · intro replayed
    induction actions using List.reverseRecOn generalizing history kernel with
    | nil =>
      cases replayed
      exact ⟨.start, rfl⟩
    | append_singleton actions action ih =>
      rw [replay?_concat] at replayed
      obtain ⟨⟨earlier, middle⟩, first, extended⟩ := Option.bind_eq_some_iff.mp replayed
      obtain ⟨answer, came, rfl⟩ := extend?_eq_some_iff.mp extended
      obtain ⟨run, actionsEq⟩ := ih first
      refine ⟨Run.step run came, ?_⟩
      rw [List.map_append, actionsEq, List.map_singleton]
  · rintro ⟨run, rfl⟩
    induction run with
    | start => rfl
    | @step history moment run came ih =>
      rw [List.map_append, List.map_singleton, replay?_concat, ih]
      exact extend?_eq_some_iff.mpr ⟨moment.answer, came, rfl⟩

/-- A run that replay finds, with what can be computed about it. -/
theorem Run.of_replay? {start : Kernel width M S n} {actions : List (Action width M S n)}
    {check : List (Moment width M S n) × Kernel width M S n → Bool}
    (computed : (replay? start actions).any check = true) :
    ∃ history kernel, Run start history kernel ∧ check (history, kernel) = true := by
  obtain ⟨⟨history, kernel⟩, replayed, checked⟩ := (Option.any_eq_true ..).mp computed
  exact ⟨history, kernel, (replay?_eq_some_iff.mp replayed).1, checked⟩

/-- Whether a step comes back, with an answer and a state that pass a check. -/
def Kernel.succeedsWith {α : Type} (step : KernelM width M S n α) (kernel : Kernel width M S n)
    (check : α → Kernel width M S n → Bool) : Bool :=
  match step kernel with
  | .ok answer after => check answer after
  | .error _ _ => false

omit [Machine M S] in
theorem Kernel.succeedsWith_iff {α : Type} {step : KernelM width M S n α} {kernel : Kernel width M S n}
    {check : α → Kernel width M S n → Bool} : Kernel.succeedsWith step kernel check = true ↔
      ∃ answer after, step kernel = .ok answer after ∧ check answer after = true := by
  unfold succeedsWith
  cases step kernel <;> simp

namespace Demo

def config : KernelConfig where
  tasks := [⟨"interrupt", ⟨3⟩, ⟨0⟩, ⟨0x08008000, 0x1000⟩, ⟨0x20001000, 0x400⟩, ⟨0x20001400, 0x400⟩⟩,
    ⟨"timer", ⟨2⟩, ⟨1⟩, ⟨0x08009000, 0x1000⟩, ⟨0x20002000, 0x400⟩, ⟨0x20002400, 0x400⟩⟩,
    ⟨"app1", ⟨1⟩, .full, ⟨0x0800a000, 0x1000⟩, ⟨0x20003000, 0x400⟩, ⟨0x20003400, 0x400⟩⟩,
    ⟨"app2", ⟨1⟩, .full, ⟨0x0800b000, 0x1000⟩, ⟨0x20004000, 0x400⟩, ⟨0x20004400, 0x400⟩⟩]
  interruptTask := some 0
  irqs := [8]

theorem resolve_app : app.resolve = .ok config := by decide +kernel

def table : Vector TaskDesc 4 :=
  #v[⟨⟨3⟩, ⟨0⟩, ⟨0x08008000, 0x1000⟩, ⟨0x20001000, 0x400⟩, ⟨0x20001400, 0x400⟩⟩,
    ⟨⟨2⟩, ⟨1⟩, ⟨0x08009000, 0x1000⟩, ⟨0x20002000, 0x400⟩, ⟨0x20002400, 0x400⟩⟩,
    ⟨⟨1⟩, .full, ⟨0x0800a000, 0x1000⟩, ⟨0x20003000, 0x400⟩, ⟨0x20003400, 0x400⟩⟩,
    ⟨⟨1⟩, .full, ⟨0x0800b000, 0x1000⟩, ⟨0x20004000, 0x400⟩, ⟨0x20004400, 0x400⟩⟩]

theorem toList_table : table.toList = config.descs := rfl

theorem table_sections (place : Fin 4) : (table.get place).firstEmpty = none := by
  revert place
  decide

/-- A kernel on that table, on a host where nothing has happened. -/
def fresh : Kernel .eight HostMachine HostContext 4 where
  tasks := table.map fun desc => ⟨desc, {}, TaskMask.empty, Mailbox.empty⟩
  ready := ReadyList.empty
  current := none
  interruptTask := (TaskId.ofIndex 0).within 4
  machine := {}
  trace := KernelTrace.new
  fits := by decide

theorem new_table : Kernel.new table (.ofIndex 0) ({} : HostMachine) = .ok fresh := rfl

/-- That kernel after it was started for the first time. -/
def started : Kernel .eight HostMachine HostContext 4 :=
  match Kernel.init fresh with
  | .ok _ after => after
  | .error _ after => after

theorem started_eq {answer : Except ConfigError (Fin 4)} {after : Kernel .eight HostMachine HostContext 4}
    (came : Kernel.init fresh = .ok answer after) : started = after := by
  unfold started
  rw [came]

theorem booted_started : started.Booted := by
  have succeeded : (match Kernel.init fresh with | .ok answer _ => answer.isOk | .error _ _ => false) = true := by
    decide +kernel
  cases came : Kernel.init fresh with
  | error fault after =>
    rw [came] at succeeded
    cases succeeded
  | ok answer after =>
    rw [came] at succeeded
    cases answer with
    | error error => cases succeeded
    | ok first =>
      rw [started_eq came]
      exact ⟨table, .ofIndex 0, {}, fresh, first, new_table, came⟩

end Demo

end CoopKernel
