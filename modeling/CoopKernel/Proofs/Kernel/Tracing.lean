import CoopKernel.Proofs.Kernel.Run
import CoopKernel.Proofs.Trace.History

/-! # What becomes of the trace

A step of the kernel touches the trace only to record events in it (`OnlyRecords`). The lemmas go through
the operations; a step that changes something else keeps the trace, and a sequence records what its parts
record. So a property of traces that recording keeps holds along every run (`Run.trace_invariant`), and the
trace of a kernel tells the end of what happened in it (`Run.trace_recounts`).
-/

namespace CoopKernel

variable {width : Width} {M S : Type} {n : Nat}

/-- A trace after some events were recorded in another. -/
def KernelTrace.Extends (after before : KernelTrace) : Prop :=
  ∃ events : List Event, after = events.foldl KernelTrace.record before

namespace KernelTrace

theorem Extends.refl (trace : KernelTrace) : Extends trace trace := ⟨[], rfl⟩

theorem Extends.trans {after middle before : KernelTrace} (last : Extends after middle)
    (first : Extends middle before) : Extends after before := by
  obtain ⟨late, rfl⟩ := last
  obtain ⟨early, rfl⟩ := first
  exact ⟨early ++ late, List.foldl_append.symm⟩

/-- What recording keeps is kept by an extension. -/
theorem Extends.keeps {Good : KernelTrace → Prop} (recording : ∀ trace event, Good trace → Good (trace.record event))
    {after before : KernelTrace} (grown : Extends after before) (good : Good before) : Good after := by
  obtain ⟨events, rfl⟩ := grown
  induction events generalizing before with
  | nil => exact good
  | cons event rest ih => exact ih (recording before event good)

/-- The trace after some events tells the end of them. -/
theorem Extends.recounts {trace : KernelTrace} (grown : Extends trace .new) :
    ∃ events : List Event, Trace.Ring.Recounts (by decide) trace (events.map fun event => (event.line, event)) := by
  obtain ⟨events, rfl⟩ := grown
  refine ⟨events, Trace.Ring.Holds.recounts ?_⟩
  have recorded := Trace.Ring.holds_recordAll (by decide : 0 < traceDepth) Event.none
    (events.map fun event => (event.line, event))
  rwa [Trace.Ring.recordAll, List.foldl_map] at recorded

end KernelTrace

namespace Kernel

/-- A step that touches the trace only to record events in it. -/
def OnlyRecords {α : Type} (step : KernelM width M S n α) : Prop :=
  ∀ kernel answer after, step kernel = .ok answer after → KernelTrace.Extends after.trace kernel.trace

section Steps

variable {α β : Type} {step : KernelM width M S n α}

theorem onlyRecords_pure (value : α) : OnlyRecords (pure value : KernelM width M S n α) := by
  intro kernel answer after came
  obtain ⟨-, rfl⟩ := pure_ok_iff.mp came
  exact .refl _

theorem onlyRecords_throw (fault : Fault) : OnlyRecords (throw fault : KernelM width M S n α) := by
  intro kernel answer after came
  exact (throw_ok_iff.mp came).elim

theorem OnlyRecords.bind {next : α → KernelM width M S n β} (first : OnlyRecords step)
    (rest : ∀ value, OnlyRecords (next value)) : OnlyRecords (step >>= next) := by
  intro kernel answer after came
  obtain ⟨value, middle, came, ended⟩ := bind_ok_iff.mp came
  exact (rest value middle answer after ended).trans (first kernel value middle came)

theorem onlyRecords_get {next : Kernel width M S n → KernelM width M S n β}
    (rest : ∀ kernel, OnlyRecords (next kernel)) : OnlyRecords (get >>= next) := by
  intro kernel answer after came
  exact rest kernel kernel answer after came

/-- A change of state that keeps the trace, and what comes after it. -/
theorem onlyRecords_modify {change : Kernel width M S n → Kernel width M S n} {next : PUnit → KernelM width M S n β}
    (same : ∀ kernel, (change kernel).trace = kernel.trace) (rest : OnlyRecords (next ⟨⟩)) :
    OnlyRecords (modify change >>= next) := by
  intro kernel answer after came
  have ended := rest (change kernel) answer after came
  rwa [same] at ended

/-- A record, and what comes after it. -/
theorem onlyRecords_record {next : PUnit → KernelM width M S n β} (event : Event) (rest : OnlyRecords (next ⟨⟩)) :
    OnlyRecords (modify (·.record event) >>= next) := by
  intro kernel answer after came
  have ended := rest (kernel.record event) answer after came
  exact ended.trans ⟨[event], rfl⟩

theorem onlyRecords_makeReady (place : Fin n) : OnlyRecords (makeReady place : KernelM width M S n Unit) := by
  intro kernel answer after came
  obtain ⟨ready, -, rfl⟩ := makeReady_ok_iff.mp came
  exact .refl _

theorem onlyRecords_onMachine (asked : EStateM Fault M α) :
    OnlyRecords (onMachine asked : KernelM width M S n α) := by
  intro kernel answer after came
  obtain ⟨machine, -, rfl⟩ := onMachine_ok_iff.mp came
  exact .refl _

theorem onlyRecords_caller : OnlyRecords (caller : KernelM width M S n (Fin n)) := by
  intro kernel place after came
  obtain ⟨-, rfl⟩ := caller_ok_iff.mp came
  exact .refl _

end Steps

/-! ## Operations -/

theorem onlyRecords_deliver (sender receiver : Fin n) (message : Message width) :
    OnlyRecords (deliver sender receiver message : KernelM width M S n _) := by
  apply onlyRecords_get
  intro kernel
  dsimp only
  split
  · split
    · exact onlyRecords_pure _
    · apply onlyRecords_modify
      · exact fun _ => rfl
      split
      · exact (onlyRecords_makeReady receiver).bind fun _ => onlyRecords_pure _
      · exact onlyRecords_pure _
  · exact onlyRecords_pure _

theorem onlyRecords_broadcast (sender : Fin n) (message : Message width) (sofar : Except MailError Unit)
    (places : List (Fin n)) : OnlyRecords (broadcast sender message sofar places : KernelM width M S n _) := by
  induction places generalizing sofar with
  | nil => exact onlyRecords_pure sofar
  | cons receiver rest ih =>
    rw [broadcast]
    split
    · exact ih sofar
    · exact (onlyRecords_deliver sender receiver message).bind fun delivery => ih _

theorem onlyRecords_send (receiver : TaskId) (message : Message width) :
    OnlyRecords (send receiver message : KernelM width M S n _) := by
  apply onlyRecords_caller.bind
  intro sender
  have recording {step : KernelM width M S n (Except MailError Unit)} (sent : OnlyRecords step) :
      OnlyRecords (do
        let result ← step
        modify (·.record (.send (.ofIndex sender) receiver (statusOf result)))
        pure result) := by
    apply sent.bind
    intro result
    exact onlyRecords_record _ (onlyRecords_pure result)
  split
  · exact recording (onlyRecords_broadcast sender message _ _)
  · split
    · exact recording (onlyRecords_deliver sender _ message)
    · exact recording (onlyRecords_pure _)

theorem onlyRecords_receive : OnlyRecords (receive : KernelM width M S n _) := by
  apply onlyRecords_caller.bind
  intro place
  apply onlyRecords_get
  intro kernel
  dsimp only
  split
  · apply onlyRecords_modify
    · exact fun _ => rfl
    exact onlyRecords_record _ (onlyRecords_pure _)
  · exact onlyRecords_record _ (onlyRecords_pure _)

section Machines

variable [Machine M S]

theorem onlyRecords_poll : OnlyRecords (poll : KernelM width M S n _) := by
  have served : OnlyRecords (serveInterrupt : KernelM width M S n Unit) := by
    apply onlyRecords_get
    intro kernel
    cases kernel.interruptTask with
    | none => exact onlyRecords_pure ()
    | some place =>
      dsimp only
      split
      · exact onlyRecords_record _ (onlyRecords_makeReady place)
      · exact onlyRecords_pure ()
  apply served.bind
  intro _
  apply onlyRecords_get
  intro kernel
  exact onlyRecords_pure _

theorem onlyRecords_sleep : OnlyRecords (sleep : KernelM width M S n Unit) :=
  onlyRecords_record _ (onlyRecords_onMachine _)

theorem onlyRecords_awaitReady (left : Nat) : OnlyRecords (awaitReady left : KernelM width M S n _) := by
  induction left with
  | zero =>
    apply onlyRecords_poll.bind
    intro head
    cases head with
    | some place => exact onlyRecords_pure place
    | none => exact onlyRecords_sleep.bind fun _ => onlyRecords_throw _
  | succ left ih =>
    apply onlyRecords_poll.bind
    intro head
    cases head with
    | some place => exact onlyRecords_pure place
    | none => exact onlyRecords_sleep.bind fun _ => ih

theorem onlyRecords_schedule : OnlyRecords (schedule : KernelM width M S n _) := by
  apply onlyRecords_get
  intro kernel
  apply (onlyRecords_awaitReady _).bind
  intro place
  apply onlyRecords_modify
  · exact fun _ => rfl
  · exact onlyRecords_pure place

theorem onlyRecords_wait (mask : TaskMask) : OnlyRecords (wait mask : KernelM width M S n _) := by
  apply onlyRecords_caller.bind
  intro place
  apply onlyRecords_get
  intro kernel
  have passing (event : Bool → Event) (blocked : Bool) : OnlyRecords
      (do
        let blocked ← pure blocked
        modify (·.record (event blocked))
        let next ← schedule
        pure (.ok (), next) : KernelM width M S n (Except MailError Unit × Fin n)) := by
    apply (onlyRecords_pure blocked).bind
    intro blocked
    apply onlyRecords_record
    exact onlyRecords_schedule.bind fun next => onlyRecords_pure _
  apply onlyRecords_modify
  · exact fun _ => rfl
  dsimp only
  split
  · exact (onlyRecords_makeReady place).bind fun _ => passing _ false
  · apply onlyRecords_modify
    · exact fun _ => rfl
    apply onlyRecords_get
    intro renamed
    split
    · exact (onlyRecords_makeReady place).bind fun _ => passing _ false
    · exact passing _ true

theorem onlyRecords_yieldTask : OnlyRecords (yieldTask : KernelM width M S n _) := by
  apply onlyRecords_caller.bind
  intro place
  apply onlyRecords_record
  apply onlyRecords_modify
  · exact fun _ => rfl
  · exact (onlyRecords_makeReady place).bind fun _ => onlyRecords_schedule

theorem onlyRecords_exit : OnlyRecords (exit : KernelM width M S n _) := by
  apply onlyRecords_caller.bind
  intro place
  apply onlyRecords_record
  apply onlyRecords_modify
  · exact fun _ => rfl
  apply onlyRecords_modify
  · exact fun _ => rfl
  · exact onlyRecords_schedule

theorem onlyRecords_rebuildContext (place : Fin n) : OnlyRecords (rebuildContext place : KernelM width M S n _) := by
  apply onlyRecords_get
  intro kernel
  apply (onlyRecords_onMachine _).bind
  intro context kernel answer after came
  cases modify_ok_iff.mp came
  exact .refl _

theorem onlyRecords_startTask (place : Fin n) : OnlyRecords (startTask place : KernelM width M S n _) := by
  apply onlyRecords_modify
  · exact fun _ => rfl
  · exact (onlyRecords_rebuildContext place).bind fun _ => onlyRecords_makeReady place

theorem onlyRecords_startTasks (places : List (Fin n)) : OnlyRecords (startTasks places : KernelM width M S n _) := by
  induction places with
  | nil => exact onlyRecords_pure _
  | cons place rest ih =>
    apply onlyRecords_get
    intro kernel
    split
    · exact onlyRecords_pure _
    · exact (onlyRecords_startTask place).bind fun _ => ih

theorem onlyRecords_switchTo (prev : TaskId) (next : Fin n) :
    OnlyRecords (switchTo prev next : KernelM width M S n _) := by
  apply onlyRecords_record
  apply (onlyRecords_onMachine _).bind
  intro _ kernel answer after came
  cases modify_ok_iff.mp came
  exact .refl _

theorem onlyRecords_init : OnlyRecords (init : KernelM width M S n _) := by
  apply onlyRecords_modify
  · exact fun _ => rfl
  apply (onlyRecords_startTasks _).bind
  intro outcome
  cases outcome with
  | error error => exact onlyRecords_pure _
  | ok =>
    apply onlyRecords_schedule.bind
    intro first
    apply onlyRecords_record
    exact (onlyRecords_switchTo _ first).bind fun _ => onlyRecords_pure _

theorem onlyRecords_restart (id : TaskId) : OnlyRecords (restart id : KernelM width M S n _) := by
  unfold restart
  split
  · exact onlyRecords_pure _
  · next place _ =>
    apply onlyRecords_record
    apply onlyRecords_modify
    · exact fun _ => rfl
    apply (onlyRecords_startTask place).bind
    intro _
    exact onlyRecords_schedule.bind fun next => onlyRecords_pure _

/-- Every direct call touches the trace only to record events in it. -/
theorem onlyRecords_perform {call : Call width} (direct : call ≠ .trap) :
    OnlyRecords (perform call : KernelM width M S n _) := by
  cases call with
  | init => exact onlyRecords_init.bind fun _ => onlyRecords_pure _
  | wait mask => exact (onlyRecords_wait mask).bind fun _ => onlyRecords_pure _
  | yield => exact onlyRecords_yieldTask.bind fun _ => onlyRecords_pure _
  | exit => exact onlyRecords_exit.bind fun _ => onlyRecords_pure _
  | schedule => exact onlyRecords_schedule.bind fun _ => onlyRecords_pure _
  | send receiver message => exact (onlyRecords_send receiver message).bind fun _ => onlyRecords_pure _
  | receive => exact onlyRecords_receive.bind fun _ => onlyRecords_pure _
  | restart id => exact (onlyRecords_restart id).bind fun _ => onlyRecords_pure _
  | trap => exact absurd rfl direct

theorem onlyRecords_serve (place : Fin n) : OnlyRecords (serve place : KernelM width M S n _) := by
  intro kernel chosen after came
  cases serve_replied came with
  | unknown _ => exact ⟨[_], rfl⟩
  | @shown syscall _ _ _ _ performed =>
    have direct : kernel.encoded place syscall ≠ .trap := Syscall.call_ne_trap _ _ _
    have recorded := onlyRecords_perform direct _ _ _ performed
    exact recorded
  | exited _ performed _ =>
    have direct : (.exit : Call width) ≠ .trap := by simp
    have recorded := onlyRecords_perform direct _ _ _ performed
    exact recorded

theorem onlyRecords_trap : OnlyRecords (trap : KernelM width M S n _) := by
  intro kernel chosen after came
  obtain ⟨place, isCaller⟩ := current_of_trap came
  have handing : OnlyRecords (do
      let next ← serve place
      if next ≠ place then switchTo (.ofIndex place) next
      return next : KernelM width M S n _) := by
    apply (onlyRecords_serve place).bind
    intro next
    split
    · exact (onlyRecords_switchTo _ next).bind fun _ => onlyRecords_pure _
    · exact onlyRecords_pure _
  rw [trap_eq isCaller] at came
  exact handing kernel chosen after came

/-- Whatever happens to a kernel touches the trace only to record events in it. -/
theorem onlyRecords_act (action : Action width M S n) : OnlyRecords (act action) := by
  cases action with
  | load place change =>
    apply onlyRecords_modify
    · exact fun _ => rfl
    · exact onlyRecords_pure _
  | outside change =>
    apply onlyRecords_modify
    · exact fun _ => rfl
    · exact onlyRecords_pure _
  | call call =>
    have performs : OnlyRecords (perform call : KernelM width M S n _) := by
      by_cases direct : call = .trap
      · subst direct
        exact onlyRecords_trap.bind fun _ => onlyRecords_pure _
      · exact onlyRecords_perform direct
    exact performs.bind fun _ => onlyRecords_pure _

end Machines

end Kernel

section Histories

variable [Machine M S] {start kernel : Kernel width M S n} {history : List (Moment width M S n)}

/-- Along a run events are recorded in the trace, and nothing else happens to it. -/
theorem Run.trace_extends (run : Run start history kernel) : KernelTrace.Extends kernel.trace start.trace := by
  induction run with
  | start => exact .refl _
  | @step history moment earlier came ih => exact (Kernel.onlyRecords_act _ _ _ _ came).trans ih

theorem Kernel.Booted.trace_extends (booted : start.Booted) : KernelTrace.Extends start.trace .new := by
  obtain ⟨_, _, _, _, _, made, began⟩ := booted
  obtain ⟨_, freshEq⟩ := Kernel.new_eq made
  have grown := Kernel.onlyRecords_init _ _ _ began
  rwa [freshEq] at grown

/-- What holds of a trace without an event, and is kept by recording, holds along every run. -/
theorem Run.trace_invariant {Good : KernelTrace → Prop} (booted : start.Booted) (run : Run start history kernel)
    (fresh : Good .new) (recording : ∀ trace event, Good trace → Good (trace.record event)) : Good kernel.trace :=
  (run.trace_extends.trans booted.trace_extends).keeps recording fresh

/-- Whatever happened along a run, the trace tells the end of it. -/
theorem Run.trace_recounts (booted : start.Booted) (run : Run start history kernel) :
    ∃ events : List Event,
      Trace.Ring.Recounts (by decide) kernel.trace (events.map fun event => (event.line, event)) :=
  (run.trace_extends.trans booted.trace_extends).recounts

end Histories

/-! ## The newest record -/

namespace KernelTrace

/-- The newest record, if there is one, is in a slot. -/
def Points (trace : KernelTrace) : Prop := ∀ last, trace.last = some last → last < traceDepth

theorem points_new : Points .new := by
  intro last isLast
  cases isLast

theorem points_record (trace : KernelTrace) (event : Event) (points : Points trace) :
    Points (trace.record event) := by
  intro last isLast
  unfold KernelTrace.record Trace.Ring.record at isLast
  split at isLast
  · apply points
    unfold Trace.Ring.extendRun at isLast
    split at isLast
    · unfold Trace.Ring.changeSlot at isLast
      split at isLast <;> exact isLast
    · exact isLast
  · cases isLast
    unfold Trace.Ring.nextIndex
    split
    · split
      · assumption
      · decide
    · decide

end KernelTrace

end CoopKernel
