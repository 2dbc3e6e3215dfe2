import Mathlib.Data.List.Forall2
import CoopKernel.Kernel.Call

/-! # Steps that came back

A step of the kernel ends with an answer or with a fault. The `_ok_iff` lemmas take apart the statement
that a step came back with an answer, for sequences and for the primitive steps, until only state
changes are left. The lemmas after them say what a state change does to the tasks. `forall₂_of_mapM` is
the counterpart for answers without a state: a list of them came about one by one.
-/

namespace CoopKernel

section Steps

variable {σ α β : Type}

/-- A sequence came back when both its parts did. -/
theorem bind_ok_iff {step : EStateM Fault σ α} {next : α → EStateM Fault σ β} {before after : σ} {answer : β} :
    (step >>= next) before = .ok answer after ↔
      ∃ value middle, step before = .ok value middle ∧ next value middle = .ok answer after := by
  change EStateM.bind step next before = .ok answer after ↔ _
  unfold EStateM.bind
  split
  · next value middle came =>
    constructor
    · exact fun came' => ⟨value, middle, came, came'⟩
    · rintro ⟨_, _, same, came'⟩
      cases came.symm.trans same
      exact came'
  · next fault middle failed =>
    constructor
    · exact fun impossible => (nomatch impossible)
    · rintro ⟨_, _, same, _⟩
      cases failed.symm.trans same

theorem pure_ok_iff {value answer : α} {before after : σ} :
    (pure value : EStateM Fault σ α) before = .ok answer after ↔ value = answer ∧ before = after := by
  change EStateM.Result.ok value before = .ok answer after ↔ _
  rw [EStateM.Result.ok.injEq]

theorem get_ok_iff {before after answer : σ} :
    (get : EStateM Fault σ σ) before = .ok answer after ↔ before = answer ∧ before = after := by
  change EStateM.Result.ok before before = .ok answer after ↔ _
  rw [EStateM.Result.ok.injEq]

theorem modify_ok_iff {change : σ → σ} {before after : σ} {answer : PUnit} :
    (modify change : EStateM Fault σ PUnit) before = .ok answer after ↔ change before = after := by
  change EStateM.Result.ok PUnit.unit (change before) = .ok answer after ↔ _
  simp

theorem throw_ok_iff {fault : Fault} {before after : σ} {answer : α} :
    (throw fault : EStateM Fault σ α) before = .ok answer after ↔ False :=
  ⟨fun impossible => (nomatch impossible), False.elim⟩

end Steps

section Answers

variable {ε α β : Type} {step : α → Except ε β} {items : List α} {results : List β}

/-- All items were answered, each with the result at its place. -/
theorem forall₂_of_mapM (found : items.mapM step = .ok results) :
    List.Forall₂ (fun item result => step item = .ok result) items results := by
  induction items generalizing results with
  | nil =>
    cases found
    exact .nil
  | cons item rest ih =>
    rw [List.mapM_cons] at found
    cases here : step item with
    | error error =>
      rw [here] at found
      cases found
    | ok result =>
      cases there : rest.mapM step with
      | error error =>
        rw [here, there] at found
        cases found
      | ok later =>
        rw [here, there] at found
        cases found
        exact .cons here (ih there)

/-- A list of pure results comes about one by one, whichever way steps can fail. -/
theorem mapM_of_forall₂ {m : Type → Type} [Monad m] [LawfulMonad m] {step : α → m β}
    (answered : List.Forall₂ (fun item result => step item = pure result) items results) :
    items.mapM step = pure results := by
  induction answered with
  | nil => rfl
  | cons here _ ih => rw [List.mapM_cons, here, pure_bind, ih, pure_bind]

/-- What each item has a result for, a list of them has a list of results for. -/
theorem exists_forall₂_iff {Result : α → β → Prop} :
    (∃ results, List.Forall₂ Result items results) ↔ ∀ item ∈ items, ∃ result, Result item result := by
  induction items with
  | nil => exact iff_of_true ⟨[], .nil⟩ (List.forall_mem_nil _)
  | cons item rest ih =>
    rw [List.forall_mem_cons, ← ih]
    constructor
    · rintro ⟨_, _ | ⟨here, later⟩⟩
      exact ⟨⟨_, here⟩, ⟨_, later⟩⟩
    · rintro ⟨⟨_, here⟩, ⟨_, later⟩⟩
      exact ⟨_, .cons here later⟩

theorem ok_of_mapM (found : items.mapM step = .ok results) : ∀ item ∈ items, ∃ result, step item = .ok result :=
  exists_forall₂_iff.mp ⟨results, forall₂_of_mapM found⟩

/-- What is read back one by one is read back as a list. -/
theorem mapM_map_eq_some {encode : α → β} {decode? : β → Option α} (back : ∀ item, decode? (encode item) = some item)
    (items : List α) : (items.map encode).mapM decode? = some items := by
  have each : List.Forall₂ (fun code item => decode? code = some item) (items.map encode) items :=
    List.forall₂_map_left_iff.mpr (List.forall₂_same.mpr fun item _ => back item)
  exact mapM_of_forall₂ each

end Answers

namespace Kernel

variable {width : Width} {M S : Type} {n : Nat} {kernel after : Kernel width M S n}

theorem makeReady_ok_iff {place : Fin n} {answer : Unit} :
    makeReady place kernel = .ok answer after ↔
      ∃ ready, kernel.ready.insert kernel.rank place = .ok ready ∧ { kernel with ready := ready } = after := by
  unfold makeReady
  cases kernel.ready.insert kernel.rank place <;> simp

theorem onMachine_ok_iff {α : Type} {step : EStateM Fault M α} {answer : α} :
    onMachine step kernel = .ok answer after ↔
      ∃ machine, step kernel.machine = .ok answer machine ∧ { kernel with machine := machine } = after := by
  unfold onMachine
  cases step kernel.machine with
  | ok value machine =>
    simp only [EStateM.Result.ok.injEq]
    constructor
    · rintro ⟨rfl, rfl⟩
      exact ⟨machine, ⟨rfl, rfl⟩, rfl⟩
    · rintro ⟨_, ⟨rfl, rfl⟩, rfl⟩
      exact ⟨rfl, rfl⟩
  | error fault machine => simp

theorem caller_ok_iff {place : Fin n} :
    caller kernel = .ok place after ↔ kernel.current = some place ∧ kernel = after := by
  unfold caller
  cases kernel.current <;> simp

theorem desc_changeTask {change : Task width S → Task width S} (keeps : ∀ task, (change task).desc = task.desc)
    (place : Fin n) : (kernel.changeTask place change).desc = kernel.desc := by
  funext other
  rw [desc, taskAt_changeTask]
  split
  · next same => rw [keeps, same, desc]
  · rfl

@[simp] theorem desc_setWaiting (place : Fin n) (mask : TaskMask) :
    (kernel.setWaiting place mask).desc = kernel.desc := by
  unfold setWaiting
  exact desc_changeTask (by intro; rfl) place

@[simp] theorem desc_setMailbox (place : Fin n) (box : Mailbox width) :
    (kernel.setMailbox place box).desc = kernel.desc := by
  unfold setMailbox
  exact desc_changeTask (by intro; rfl) place

@[simp] theorem desc_changeContext (place : Fin n) (change : S → S) :
    (kernel.changeContext place change).desc = kernel.desc := by
  unfold changeContext
  exact desc_changeTask (by intro; rfl) place

@[simp] theorem desc_resetTask (place : Fin n) : (kernel.resetTask place).desc = kernel.desc := by
  unfold resetTask
  exact desc_changeTask (by intro; rfl) place

theorem rank_of_desc {other : Kernel width M S n} (same : other.desc = kernel.desc) : other.rank = kernel.rank := by
  funext place
  rw [rank, same, rank]

theorem hasMailFrom_setWaiting (place other : Fin n) (mask wanted : TaskMask) :
    (kernel.setWaiting place mask).hasMailFrom other wanted = kernel.hasMailFrom other wanted := by
  rw [hasMailFrom, setWaiting, taskAt_changeTask, hasMailFrom]
  split
  · next same => rw [same]
  · rfl

end Kernel

end CoopKernel
