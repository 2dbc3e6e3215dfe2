import CoopKernel.Proofs.Kernel.Following
import CoopKernel.Proofs.Trap.Isolation

/-! # Traps on two machines

Registers are laid out differently on different machines, so paired kernels say nothing about the contexts
of their tasks. For a trap the contexts of the caller have to agree on the call, and they then agree on its
results. `SharedRegisters` is what a relation of saved registers has to be for that; with it a trap that
comes back on the first machine comes back on the second (`Kernel.follows_trap`).
-/

namespace CoopKernel

variable {width : Width} {M S M' S' : Type} {n : Nat}

/-- What a relation of saved registers has to be for traps: they ask for the same, and results are written to the same
effect. -/
structure SharedRegisters [Registers S] [Registers S'] (shared : S → S' → Prop) : Prop where
  number : ∀ {saved other}, shared saved other → Registers.number other = Registers.number saved
  argument : ∀ {saved other}, shared saved other → Registers.argument other = Registers.argument saved
  setResult : ∀ {saved other}, shared saved other → ∀ i word,
    shared (Registers.setResult saved i word) (Registers.setResult other i word)

namespace SharedRegisters

variable [Registers S] [Registers S'] {shared : S → S' → Prop} (sharing : SharedRegisters shared) {saved : S} {other : S'}

include sharing

theorem call_eq (same : shared saved other) (syscall : Syscall) :
    syscall.call width other = syscall.call width saved := by
  have argumentEq := sharing.argument same
  cases syscall with
  | wait => rw [Syscall.call, Syscall.call, Registers.waitMask, argumentEq, Registers.waitMask]
  | send =>
    rw [Syscall.call, Syscall.call, Registers.sendReceiver, Registers.sendMessage, argumentEq, Registers.sendReceiver,
      Registers.sendMessage]
  | yield => rfl
  | receive => rfl
  | exit => rfl

theorem setStatus {α : Type} (same : shared saved other) (result : Except MailError α) :
    shared (Registers.setStatus saved result) (Registers.setStatus other result) :=
  sharing.setResult same 0 _

theorem setReceived (same : shared saved other) (result : Except MailError (Entry width)) :
    shared (Registers.setReceived saved result) (Registers.setReceived other result) := by
  have status := sharing.setStatus same result
  have sender := sharing.setResult status 1
  exact sharing.setResult (sharing.setResult (sender _) 2 _) 3 _

theorem shownIn (same : shared saved other) (answer : Answer width n) :
    shared (answer.shownIn saved) (answer.shownIn other) := by
  cases answer with
  | received result => exact sharing.setReceived same result
  | _ => exact sharing.setStatus same _

end SharedRegisters

namespace Kernel

section Traps

variable {alike : M → M' → Prop} {table : Fin n → TaskDesc} {shared : S → S' → Prop} [Machine M S] [Machine M' S']
  (twins : Twins alike table) (sharing : SharedRegisters shared)
  {kernel after : Kernel width M S n} {other : Kernel width M' S' n} {place chosen : Fin n}

include twins sharing

/-- Serving a trap follows, and unless the task exited, its registers stay shared. -/
theorem follows_serve (paired : Paired alike table kernel other)
    (same : shared (kernel.taskAt place).context (other.taskAt place).context)
    (came : serve place kernel = .ok chosen after) :
    ∃ later, serve place other = .ok chosen later ∧ Paired alike table after later ∧
      (kernel.asked place ≠ some .exit → shared (after.taskAt place).context (later.taskAt place).context) := by
  have askedEq : other.asked place = kernel.asked place := by
    rw [asked, sharing.number same, asked]
  have encodedEq (syscall : Syscall) : other.encoded place syscall = kernel.encoded place syscall :=
    sharing.call_eq same syscall
  cases serve_replied came with
  | unknown unknown =>
    refine ⟨other.refused place, serve_unknown (askedEq.trans unknown), ?_, fun _ => ?_⟩
    · rw [refused, refused, sharing.number same]
      exact (paired.record _).changeContext place _ _
    · rw [refused, refused, context_changeContext, context_changeContext]
      exact sharing.setStatus same _
  | @shown syscall result middle asks returns performed =>
    have direct : kernel.encoded place syscall ≠ .trap := Syscall.call_ne_trap _ _ _
    have own : (kernel.encoded place syscall).isOwn = true := Syscall.isOwn_call ..
    obtain ⟨middle', performed', performedPaired⟩ := follows_perform twins direct paired result middle performed
    have replied : reply syscall place result middle' = .ok () (middle'.changeContext place (result.shownIn ·)) := by
      cases syscall with
      | exit => exact absurd rfl returns
      | _ => rfl
    refine ⟨middle'.changeContext place (result.shownIn ·), ?_, performedPaired.changeContext place _ _, fun _ => ?_⟩
    · rw [serve_eq (askedEq.trans asks), encodedEq, bind_of_ok performed', bind_of_ok replied]
      rfl
    · rw [context_changeContext, context_changeContext, perform_context own direct performed place,
        perform_context own direct performed' place]
      exact sharing.shownIn same result
  | @exited chosen middle context machine asks performed built =>
    obtain ⟨middle', performed', performedPaired⟩ := follows_perform twins (by simp) paired _ middle performed
    have rebuilt : rebuildContext place middle =
        .ok () ({ middle with machine := machine }.changeContext place fun _ => context) := by
      simp only [rebuildContext, bind_ok_iff, get_ok_iff, onMachine_ok_iff, modify_ok_iff]
      exact ⟨_, _, ⟨rfl, rfl⟩, context, _, ⟨machine, built, rfl⟩, rfl⟩
    obtain ⟨later, rebuilt', rebuiltPaired⟩ := follows_rebuildContext twins place performedPaired _ _ rebuilt
    refine ⟨later, ?_, rebuiltPaired, fun returns => absurd asks returns⟩
    have performed' : perform (kernel.encoded place .exit) other = .ok (.next chosen) middle' := performed'
    have replied : reply .exit place (.next chosen : Answer width n) middle' = .ok () later := rebuilt'
    rw [serve_eq (askedEq.trans asks), encodedEq, bind_of_ok performed', bind_of_ok replied]
    rfl

/-- A trap follows, and unless the task exited, its registers stay shared. -/
theorem follows_trap (paired : Paired alike table kernel other) (isCaller : kernel.current = some place)
    (same : shared (kernel.taskAt place).context (other.taskAt place).context)
    (came : trap kernel = .ok chosen after) :
    ∃ later, trap other = .ok chosen later ∧ Paired alike table after later ∧
      (kernel.asked place ≠ some .exit → shared (after.taskAt place).context (later.taskAt place).context) := by
  rw [trap_eq isCaller] at came
  obtain ⟨next, served, servedEq, came⟩ := bind_ok_iff.mp came
  obtain ⟨served', servedEq', servedPaired, stillShared⟩ := follows_serve twins sharing paired same servedEq
  rw [trap_eq (paired.current_eq.trans isCaller), bind_of_ok servedEq']
  split at came
  · next apart =>
    obtain ⟨_, handed, switched, came⟩ := bind_ok_iff.mp came
    obtain ⟨rfl, rfl⟩ := pure_ok_iff.mp came
    obtain ⟨later, switched', laterPaired⟩ := follows_switchTo twins (.ofIndex place) next servedPaired _ _ switched
    have taskEq : handed.taskAt place = served.taskAt place := by
      rw [(switchTo_ok switched).2]
      rfl
    have taskEq' : later.taskAt place = served'.taskAt place := by
      rw [(switchTo_ok switched').2]
      rfl
    rw [if_pos apart, bind_of_ok switched']
    refine ⟨later, rfl, laterPaired, ?_⟩
    rw [taskEq, taskEq']
    exact stillShared
  · next stays =>
    obtain ⟨rfl, rfl⟩ := pure_ok_iff.mp came
    rw [if_neg stays]
    exact ⟨served', rfl, servedPaired, stillShared⟩

end Traps

end Kernel

end CoopKernel
