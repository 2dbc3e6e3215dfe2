import CoopKernel.Proofs.Kernel.Effects

/-! # Traps as calls with a reply

A trap does the direct call that the caller's registers ask for, and then replies: it writes the answer
into the caller's registers, or builds them anew after an exit (`serve_eq`). What happens to the machine
comes last, when the processor is handed to another task. Faults of the direct call are faults of the
trap, and a trap that came back is one of three cases, which `Trapped` lists.
-/

namespace CoopKernel

section Steps

variable {σ α β : Type}

theorem bind_of_ok {step : EStateM Fault σ α} {next : α → EStateM Fault σ β} {before middle : σ} {value : α}
    (came : step before = .ok value middle) : (step >>= next) before = next value middle := by
  change EStateM.bind step next before = next value middle
  rw [EStateM.bind, came]

theorem bind_of_error {step : EStateM Fault σ α} {next : α → EStateM Fault σ β} {before middle : σ} {fault : Fault}
    (failed : step before = .error fault middle) : (step >>= next) before = .error fault middle := by
  change EStateM.bind step next before = .error fault middle
  rw [EStateM.bind, failed]

theorem get_bind {next : σ → EStateM Fault σ β} {before : σ} :
    ((get : EStateM Fault σ σ) >>= next) before = next before before := rfl

theorem modify_bind {change : σ → σ} {next : PUnit → EStateM Fault σ β} {before : σ} :
    ((modify change : EStateM Fault σ PUnit) >>= next) before = next ⟨⟩ (change before) := rfl

end Steps

/-- Whether a call is one that the running task makes. The others are not made by a task. -/
def Call.isOwn {width : Width} : Call width → Bool
  | .wait _ | .yield | .exit | .send _ _ | .receive | .trap => true
  | .init | .schedule | .restart _ => false

/-- The direct call that a trap stands for, with the arguments found in the caller's registers. -/
def Syscall.call {S : Type} [Registers S] (width : Width) (saved : S) : Syscall → Call width
  | .wait => .wait (Registers.waitMask saved)
  | .yield => .yield
  | .send => .send (Registers.sendReceiver saved) (Registers.sendMessage width saved)
  | .receive => .receive
  | .exit => .exit

theorem Syscall.call_ne_trap {S : Type} [Registers S] (width : Width) (saved : S) (syscall : Syscall) :
    syscall.call width saved ≠ .trap := by
  cases syscall <;> simp [Syscall.call]

theorem Syscall.isOwn_call {S : Type} [Registers S] (width : Width) (saved : S) (syscall : Syscall) :
    (syscall.call width saved).isOwn = true := by
  cases syscall <;> rfl

namespace Answer

variable {width : Width} {n : Nat}

/-- The task that an answer says should run. -/
def chosen? : Answer width n → Option (Fin n)
  | .booted (.ok first) => some first
  | .waited _ place => some place
  | .next place => some place
  | .restarted (.ok place) => some place
  | _ => none

/-- Whether what was asked for succeeded, or why not. -/
def status : Answer width n → Except MailError Unit
  | .waited result _ => result
  | .sent result => result
  | .received result => result.map fun _ => ()
  | .restarted result => result.map fun _ => ()
  | .booted _ => .ok ()
  | .next _ => .ok ()

/-- Registers in which an answer was written for the task that asked: the status, and what was received. -/
def shownIn {S : Type} [Registers S] (saved : S) : Answer width n → S
  | .received result => Registers.setReceived saved result
  | answer => Registers.setStatus saved answer.status

end Answer

namespace Kernel

variable {width : Width} {M S : Type} {n : Nat} [Machine M S] {kernel after : Kernel width M S n} {place : Fin n}

/-- The call that a task's registers ask for, if their number stands for one. -/
def asked (kernel : Kernel width M S n) (place : Fin n) : Option Syscall :=
  Syscall.ofNumber? (Registers.number (kernel.taskAt place).context)

/-- The direct call that a task's registers stand for, if they ask for a given one. -/
def encoded (kernel : Kernel width M S n) (place : Fin n) (syscall : Syscall) : Call width :=
  syscall.call width (kernel.taskAt place).context

/-- Show a task the answer of the call that it asked for. A task that exited gets the registers with which it starts. -/
def reply (syscall : Syscall) (place : Fin n) (result : Answer width n) : KernelM width M S n Unit :=
  match syscall with
  | .exit => rebuildContext place
  | _ => modify (·.changeContext place (result.shownIn ·))

/-- Serving a trap is the direct call and the reply to it. -/
theorem serve_eq {syscall : Syscall} (asks : kernel.asked place = some syscall) :
    serve place kernel = (do
      let result ← perform (kernel.encoded place syscall)
      reply syscall place result
      return result.chosen?.getD place) kernel := by
  rw [serve, get_bind]
  dsimp only
  rw [show Syscall.ofNumber? (Registers.number (kernel.taskAt place).context) = some syscall from asks]
  cases syscall <;> simp only [encoded, Syscall.call, perform, bind_assoc, pure_bind] <;> rfl

/-- Registers whose number stands for no call get the status of a bad id. -/
def refused (kernel : Kernel width M S n) (place : Fin n) : Kernel width M S n :=
  (kernel.record (.badSyscall (.ofIndex place) (Registers.number (kernel.taskAt place).context))).changeContext place
    (Registers.setStatus · (.error .badParam : Except MailError Unit))

theorem serve_unknown (unknown : kernel.asked place = none) :
    serve place kernel = .ok place (kernel.refused place) := by
  rw [serve, get_bind]
  dsimp only
  rw [show Syscall.ofNumber? (Registers.number (kernel.taskAt place).context) = none from unknown]
  rfl

/-- What a trap of a task has done before the processor is handed over, with the task to run. -/
inductive Replied (kernel : Kernel width M S n) (place : Fin n) : Fin n → Kernel width M S n → Prop
  | unknown (unknown : kernel.asked place = none) : Replied kernel place place (kernel.refused place)
  | shown {syscall : Syscall} {result : Answer width n} {middle : Kernel width M S n}
      (asks : kernel.asked place = some syscall) (returns : syscall ≠ .exit)
      (performed : perform (kernel.encoded place syscall) kernel = .ok result middle) :
      Replied kernel place (result.chosen?.getD place) (middle.changeContext place (result.shownIn ·))
  | exited {chosen : Fin n} {middle : Kernel width M S n} {context : S} {machine : M}
      (asks : kernel.asked place = some .exit) (performed : perform .exit kernel = .ok (.next chosen) middle)
      (built : Machine.buildContext (.ofIndex place) (middle.desc place) middle.machine = .ok context machine) :
      Replied kernel place chosen ({ middle with machine := machine }.changeContext place fun _ => context)

theorem serve_replied {chosen : Fin n} (came : serve place kernel = .ok chosen after) :
    Replied kernel place chosen after := by
  cases asks : kernel.asked place with
  | none =>
    cases (serve_unknown asks).symm.trans came
    exact .unknown asks
  | some syscall =>
    rw [serve_eq asks] at came
    simp only [bind_ok_iff, pure_ok_iff] at came
    obtain ⟨result, middle, performed, _, _, replied, rfl, rfl⟩ := came
    by_cases exits : syscall = .exit
    · subst exits
      have performed : perform .exit kernel = .ok result middle := performed
      obtain ⟨chosen, _, -, answered⟩ := bind_ok_iff.mp performed
      obtain ⟨rfl, rfl⟩ := pure_ok_iff.mp answered
      simp only [reply, rebuildContext, bind_ok_iff, get_ok_iff, onMachine_ok_iff, modify_ok_iff] at replied
      obtain ⟨_, _, ⟨rfl, rfl⟩, context, _, ⟨machine, built, rfl⟩, rfl⟩ := replied
      exact .exited asks performed built
    · cases syscall with
      | exit => exact absurd rfl exits
      | _ =>
        cases modify_ok_iff.mp replied
        exact .shown asks exits performed

/-- How the processor is handed over after a trap of a task: not at all if that task runs on. -/
inductive HandedOver (place : Fin n) (served : Kernel width M S n) : Fin n → Kernel width M S n → Prop
  | stays : HandedOver place served place served
  | switched {chosen : Fin n} {machine : M} {trace : KernelTrace} (apart : chosen ≠ place)
      (switched : Switched (.ofIndex place) (.ofIndex chosen) served.machine machine) :
      HandedOver place served chosen { served with machine := machine, trace := trace }

theorem HandedOver.taskAt_eq {served : Kernel width M S n} {chosen : Fin n} (handed : HandedOver place served chosen after)
    (other : Fin n) : after.taskAt other = served.taskAt other := by
  cases handed with
  | stays => rfl
  | switched => rfl

theorem trap_eq (isCaller : kernel.current = some place) :
    trap kernel = (do
      let next ← serve place
      if next ≠ place then switchTo (.ofIndex place) next
      return next) kernel := by
  rw [trap, get_bind]
  dsimp only
  rw [isCaller]

theorem current_of_trap {chosen : Fin n} (came : trap kernel = .ok chosen after) :
    ∃ place, kernel.current = some place := by
  obtain absent | present := Option.eq_none_or_eq_some kernel.current
  · simp only [trap, bind_ok_iff, get_ok_iff] at came
    obtain ⟨_, _, ⟨rfl, rfl⟩, came⟩ := came
    rw [absent] at came
    exact (throw_ok_iff.mp came).elim
  · exact present

/-- A trap that came back was served for the current task, and then the processor was handed over. -/
theorem trap_served {chosen : Fin n} (isCaller : kernel.current = some place) (came : trap kernel = .ok chosen after) :
    ∃ served, serve place kernel = .ok chosen served ∧ HandedOver place served chosen after := by
  rw [trap_eq isCaller] at came
  obtain ⟨next, served, servedEq, came⟩ := bind_ok_iff.mp came
  split at came
  · next apart =>
    simp only [bind_ok_iff, pure_ok_iff] at came
    obtain ⟨_, _, handed, rfl, rfl⟩ := came
    obtain ⟨switched, afterEq⟩ := switchTo_ok handed
    rw [afterEq]
    exact ⟨served, servedEq, .switched apart switched⟩
  · next same =>
    obtain ⟨rfl, rfl⟩ := pure_ok_iff.mp came
    cases Classical.not_not.mp same
    exact ⟨served, servedEq, .stays⟩

end Kernel

end CoopKernel
