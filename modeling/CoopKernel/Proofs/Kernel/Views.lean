import CoopKernel.Proofs.Kernel.Movement

/-! # Views of the machine

Most of what the kernel asks of a machine leaves alone what the machine knows about the running task:
the kernel sleeps, and has contexts built. A view is `Blind` if these steps do not show in it. Calls of
tasks do not show in a blind view at all (`perform_view`), and a trap shows in it only when it hands the
processor over, which it does exactly when the current task changes (`trap_handsOver`).
-/

namespace CoopKernel.Kernel

variable {width : Width} {M S V : Type} {n : Nat} {kernel after : Kernel width M S n} {view : M → V}

theorem Delivery.machine_eq {sender receiver : Fin n} {message : Message width} {result : Except MailError Unit}
    (delivery : Delivery kernel sender receiver message result after) : after.machine = kernel.machine := by
  cases delivery <;> rfl

theorem Deliveries.machine_eq {sender : Fin n} {message : Message width} {places : List (Fin n)}
    {results : List (Except MailError Unit)} (deliveries : Deliveries sender message places results kernel after) :
    after.machine = kernel.machine := by
  induction deliveries with
  | done => rfl
  | own _ ih => exact ih
  | next _ delivery _ ih => exact ih.trans delivery.machine_eq

theorem Sends.machine_eq {sender : Fin n} {receiver : TaskId} {message : Message width}
    {result : Except MailError Unit} (sends : Sends kernel sender receiver message result after) :
    after.machine = kernel.machine := by
  cases sends with
  | toAll _ deliveries => exact deliveries.machine_eq
  | toOne _ _ delivery => exact delivery.machine_eq
  | toNobody => rfl

theorem Waits.machine_eq {place : Fin n} {wanted : TaskMask} (waits : Waits kernel place wanted after) :
    after.machine = kernel.machine := by
  cases waits <;> rfl

section Steps

variable [Machine M S]

/-- A view of the machine in which neither sleeping nor the building of contexts shows. -/
structure Blind (view : M → V) : Prop where
  idle : ∀ before after, Machine.idle before = .ok () after → view after = view before
  build : ∀ id desc before context after, Machine.buildContext id desc before = .ok context after →
    view after = view before

theorem Slept.view_eq {before after : M} (slept : Slept before after) (blind : Blind view) :
    view after = view before := by
  induction slept with
  | awake => rfl
  | idled idled _ ih => exact ih.trans (blind.idle _ _ idled)

/-- Direct calls of tasks do not show in a blind view. -/
theorem perform_view {call : Call width} {result : Answer width n} (blind : Blind view) (own : call.isOwn = true)
    (direct : call ≠ .trap) (came : perform call kernel = .ok result after) :
    view after.machine = view kernel.machine := by
  cases perform_ok came with
  | init => cases own
  | schedule => cases own
  | restart => cases own
  | trap => exact absurd rfl direct
  | wait came =>
    obtain ⟨_, _, -, -, waits, scheduled⟩ := wait_ok came
    rw [scheduled.slept.view_eq blind, waits.machine_eq]
  | yield came =>
    obtain ⟨_, _, -, -, scheduled⟩ := yieldTask_ok came
    exact scheduled.slept.view_eq blind
  | exit came =>
    obtain ⟨_, -, scheduled⟩ := exit_ok came
    exact scheduled.slept.view_eq blind
  | send came =>
    obtain ⟨_, _, -, sends, afterEq⟩ := send_ok came
    rw [afterEq, sends.machine_eq]
  | receive came =>
    obtain ⟨_, -, ⟨_, _, -, -, afterEq⟩ | ⟨_, -, -, afterEq⟩⟩ := receive_ok came
    · rw [afterEq]
      rfl
    · rw [afterEq]

/-- How the current task changes, and what shows of it in a view: nothing if it stays, and otherwise that the processor
was handed from one task to the other. -/
inductive HandsOver (view : M → V) (before after : Kernel width M S n) : Prop
  | stays (currentEq : after.current = before.current) (viewEq : view after.machine = view before.machine)
  | passes {prev next : Fin n} {machine : M} (isCaller : before.current = some prev)
      (isNext : after.current = some next) (apart : next ≠ prev) (viewEq : view machine = view before.machine)
      (switched : Switched (.ofIndex prev) (.ofIndex next) machine after.machine)

/-- What a trap does before the processor is handed over: the task that is to run is current, and nothing shows. -/
theorem Replied.view_eq {place chosen : Fin n} (replied : Replied kernel place chosen after) (blind : Blind view)
    (bootable : kernel.Bootable) (formed : kernel.ready.WellFormed) (isCaller : kernel.current = some place) :
    after.current = some chosen ∧ view after.machine = view kernel.machine := by
  cases replied with
  | unknown => exact ⟨isCaller, rfl⟩
  | @shown syscall result middle asks returns performed =>
    have own : (kernel.encoded place syscall).isOwn = true := Syscall.isOwn_call ..
    have direct : kernel.encoded place syscall ≠ .trap := Syscall.call_ne_trap _ _ _
    have movement := perform_moves bootable formed direct performed
    have viewEq : view middle.machine = view kernel.machine := perform_view blind own direct performed
    refine ⟨?_, viewEq⟩
    cases choice : result.chosen? with
    | none => exact (movement.kept choice).1.trans isCaller
    | some next => exact (movement.chosen next choice).1
  | exited _ performed built =>
    have movement := perform_moves bootable formed (by simp) performed
    have viewEq := perform_view blind rfl (by simp) performed
    exact ⟨(movement.chosen _ rfl).1, (blind.build _ _ _ _ _ built).trans viewEq⟩

/-- A trap makes the task current that it answers with, and hands the processor over if that is another one. -/
theorem trap_handsOver {chosen : Fin n} (blind : Blind view) (bootable : kernel.Bootable)
    (formed : kernel.ready.WellFormed) (came : trap kernel = .ok chosen after) :
    after.current = some chosen ∧ HandsOver view kernel after := by
  obtain ⟨place, isCaller⟩ := current_of_trap came
  obtain ⟨served, servedEq, handed⟩ := trap_served isCaller came
  obtain ⟨currentEq, viewEq⟩ := (serve_replied servedEq).view_eq blind bootable formed isCaller
  cases handed with
  | stays => exact ⟨currentEq, .stays (currentEq.trans isCaller.symm) viewEq⟩
  | switched apart switched => exact ⟨currentEq, .passes isCaller currentEq apart viewEq switched⟩

theorem Started.view_eq {place : Fin n} (started : Started kernel place after) (blind : Blind view) :
    view after.machine = view kernel.machine := by
  obtain ⟨_, built, -⟩ := started.rebuilt
  exact blind.build _ _ _ _ _ built

theorem Starts.view_eq {places : List (Fin n)} (starts : Starts places kernel after) (blind : Blind view) :
    view after.machine = view kernel.machine := by
  induction starts with
  | done => rfl
  | next _ started _ ih => exact ih.trans (started.view_eq blind)

/-- Starting every task hands the processor from nobody to the first one to run. -/
theorem init_handsOver {first : Fin n} (blind : Blind view) (came : init kernel = .ok (.ok first) after) :
    after.current = some first ∧
      ∃ machine, view machine = view kernel.machine ∧ Switched .nobody (.ofIndex first) machine after.machine := by
  have bootable := init_sections came
  rcases init_ok came with ⟨_, -, impossible⟩ | ⟨started, scheduled, _, began, passed, same, switched, -⟩
  · cases impossible
  · cases same
    have cleared : Bootable { kernel with ready := kernel.ready.clear, current := none } := bootable
    have viewEq := (startTasks_starts cleared began).2.view_eq blind
    exact ⟨((init_moves bootable came).chosen first rfl).1, scheduled.machine,
      (passed.slept.view_eq blind).trans viewEq, switched⟩

end Steps

end CoopKernel.Kernel
