import CoopKernel.Proofs.Kernel.Failing
import CoopKernel.Proofs.Kernel.Replay
import CoopKernel.Proofs.Mail.Offers

/-! # When operations are refused, and what that leaves

A broadcast tries every task before it is answered, and its answer is folded from those of the tasks. The
tasks do not get in each other's way, so all of them answer as they would have at first
(`Deliveries.results_eq`), and the answer of a send is a function of the kernel before it (`response`).
If none of them took the message, nothing was done (`Deliveries.eq_of_refused`). `refused_exactly`
collects what that means for sending, receiving and restarting: each cause has its own condition on the
state before, and a refusal leaves that state, with one more event in the trace at most.
-/

namespace CoopKernel

namespace Kernel

variable {width : Width} {M S : Type} {n : Nat} {kernel after : Kernel width M S n}
  {sender receiver : Fin n} {message : Message width} {results : List (Except MailError Unit)}

/-! ## One delivery -/

def permits (kernel : Kernel width M S n) (sender receiver : Fin n) : Bool :=
  (kernel.desc receiver).permission.contains (.ofIndex sender)

/-- Whether every slot of a task's mailbox is in use. -/
def Crowded (kernel : Kernel width M S n) (place : Fin n) : Prop := (kernel.mail place).length = mailboxCapacity

theorem verdict_eq_error_iff {error : MailError} :
    kernel.verdict sender receiver = .error error ↔
      error = .denied ∧ kernel.permits sender receiver = false ∨
        error = .fifoFull ∧ kernel.permits sender receiver = true ∧ kernel.Crowded receiver := by
  rw [Crowded, mail, ← Mailbox.isFull_iff, verdict, permits]
  cases (kernel.desc receiver).permission.contains (.ofIndex sender) <;>
    cases (kernel.taskAt receiver).mailbox.isFull <;> cases error <;> decide

theorem verdict_eq_ok_iff :
    kernel.verdict sender receiver = .ok () ↔ kernel.permits sender receiver = true ∧ ¬kernel.Crowded receiver := by
  rw [Crowded, mail, ← Mailbox.isFull_iff, verdict, permits]
  cases (kernel.desc receiver).permission.contains (.ofIndex sender) <;>
    cases (kernel.taskAt receiver).mailbox.isFull <;> decide

theorem verdict_congr {other : Kernel width M S n} (same : other.taskAt receiver = kernel.taskAt receiver) :
    other.verdict sender receiver = kernel.verdict sender receiver := by
  rw [verdict, desc, same, verdict, desc]

theorem Delivery.eq_of_error {error : MailError}
    (delivery : Delivery kernel sender receiver message (.error error) after) : after = kernel := by
  cases delivery <;> rfl

/-! ## Deliveries to many -/

/-- No task answers differently because others were offered the message before. -/
theorem Deliveries.results_eq {places : List (Fin n)}
    (deliveries : Deliveries sender message places results kernel after) (nodup : places.Nodup) :
    results = (places.filter (· ≠ sender)).map (kernel.verdict sender) := by
  -- a delivery changes its receiver only, and no receiver comes twice, so the others are judged as before
  induction deliveries with
  | done => rfl
  | own _ ih =>
    rw [List.filter_cons_of_neg (by simp)]
    exact ih nodup.of_cons
  | @next receiver rest result results kernel middle after other delivery _ ih =>
    obtain ⟨fresh, nodupRest⟩ := List.nodup_cons.mp nodup
    rw [List.filter_cons_of_pos (by simpa using other), List.map_cons, delivery.result_eq, ih nodupRest]
    congr 1
    apply List.map_congr_left
    intro later member
    have apart : receiver ≠ later := by
      rintro rfl
      exact fresh (List.mem_filter.mp member).1
    exact verdict_congr (delivery.taskAt_of_ne apart)

theorem Deliveries.eq_of_refused {places : List (Fin n)}
    (deliveries : Deliveries sender message places results kernel after) (refused : .ok () ∉ results) :
    after = kernel := by
  induction deliveries with
  | done => rfl
  | own _ ih => exact ih refused
  | @next _ _ result _ _ _ _ _ delivery _ ih =>
    rw [List.mem_cons, not_or] at refused
    rw [ih refused.2]
    cases result with
    | ok => exact absurd rfl refused.1
    | error error => exact delivery.eq_of_error

/-- The answer of a broadcast: a success if there is one, else a full mailbox if there is one. -/
theorem foldl_broadcastResult (results : List (Except MailError Unit)) (sofar : Except MailError Unit) :
    results.foldl broadcastResult sofar =
      if .ok () ∈ sofar :: results then .ok ()
      else if .error .fifoFull ∈ results then .error .fifoFull else sofar := by
  induction results generalizing sofar with
  | nil => cases sofar <;> simp
  | cons result rest ih =>
    rw [List.foldl_cons, ih]
    cases sofar with
    | ok => cases result <;> simp [broadcastResult]
    | error first =>
      cases result with
      | ok => simp [broadcastResult]
      | error error => cases error <;> simp [broadcastResult]

/-! ## Sends -/

def response (kernel : Kernel width M S n) (sender : Fin n) (receiver : TaskId) : Except MailError Unit :=
  if receiver = .everyone then
    (((List.finRange n).filter (· ≠ sender)).map (kernel.verdict sender)).foldl broadcastResult (.error .denied)
  else match receiver.within n with
    | some place => kernel.verdict sender place
    | none => .error .badParam

theorem Sends.result_eq {receiver : TaskId} {result : Except MailError Unit}
    (sends : Sends kernel sender receiver message result after) : result = kernel.response sender receiver := by
  cases sends with
  | toAll all deliveries => rw [response, if_pos all, ← deliveries.results_eq (List.nodup_finRange n)]
  | toOne one named delivery =>
    rw [response, if_neg one, named]
    exact delivery.result_eq
  | toNobody one unnamed => rw [response, if_neg one, unnamed]

theorem Sends.eq_of_error {receiver : TaskId} {error : MailError}
    (sends : Sends kernel sender receiver message (.error error) after) : after = kernel := by
  generalize answered : Except.error error = result at sends
  cases sends with
  | toAll all deliveries =>
    rw [foldl_broadcastResult] at answered
    split at answered
    · cases answered
    · next refused => exact deliveries.eq_of_refused fun member => refused (List.mem_cons_of_mem _ member)
  | toOne one named delivery => exact (answered ▸ delivery).eq_of_error
  | toNobody => rfl

/-- The conditions under which a send of a task is refused, by cause. -/
def RefusesSend (kernel : Kernel width M S n) (sender : Fin n) (receiver : TaskId) : MailError → Prop
  | .badParam => receiver ≠ .everyone ∧ ∀ place : Fin n, receiver ≠ .ofIndex place
  | .denied =>
      (∃ place : Fin n, receiver = .ofIndex place ∧ kernel.permits sender place = false) ∨
        receiver = .everyone ∧ ∀ other, other ≠ sender → kernel.permits sender other = false
  | .fifoFull =>
      (∃ place : Fin n, receiver = .ofIndex place ∧ kernel.permits sender place = true ∧ kernel.Crowded place) ∨
        receiver = .everyone ∧ (∃ other, other ≠ sender ∧ kernel.permits sender other = true) ∧
          ∀ other, other ≠ sender → kernel.permits sender other = true → kernel.Crowded other
  | .fifoEmpty | .receiveMismatch => False

theorem refusesSend_everyone_iff {error : MailError} :
    kernel.RefusesSend sender .everyone error ↔
      (error = .denied ∧ ∀ other, other ≠ sender → kernel.permits sender other = false) ∨
        error = .fifoFull ∧ (∃ other, other ≠ sender ∧ kernel.permits sender other = true) ∧
          ∀ other, other ≠ sender → kernel.permits sender other = true → kernel.Crowded other := by
  have nameless (place : Fin n) := TaskId.everyone_ne_ofIndex (Nat.le_trans kernel.fits (by decide)) place
  cases error <;> simp [RefusesSend, nameless]

/-- A broadcast is answered by all other tasks: one that takes the message outweighs those that do not, and one that
is full outweighs those that do not permit it. -/
theorem response_everyone_iff {error : MailError} :
    kernel.response sender .everyone = .error error ↔ kernel.RefusesSend sender .everyone error := by
  have takenIff :
      .ok () ∈ .error .denied :: ((List.finRange n).filter (· ≠ sender)).map (kernel.verdict sender) ↔
        ∃ other, other ≠ sender ∧ kernel.permits sender other = true ∧ ¬kernel.Crowded other := by
    simp [verdict_eq_ok_iff]
  have fullIff : .error .fifoFull ∈ ((List.finRange n).filter (· ≠ sender)).map (kernel.verdict sender) ↔
      ∃ other, other ≠ sender ∧ kernel.permits sender other = true ∧ kernel.Crowded other := by
    simp [verdict_eq_error_iff]
  rw [response, if_pos rfl, foldl_broadcastResult, refusesSend_everyone_iff]
  -- either somebody takes the message, or all who permit it are full; then it matters whether there are any
  by_cases taken : ∃ other, other ≠ sender ∧ kernel.permits sender other = true ∧ ¬kernel.Crowded other
  · rw [if_pos (takenIff.mpr taken)]
    obtain ⟨other, apart, permitted, room⟩ := taken
    constructor
    · rintro ⟨⟩
    rintro (⟨-, forbidden⟩ | ⟨-, -, crowded⟩)
    · cases (forbidden other apart).symm.trans permitted
    · exact absurd (crowded other apart permitted) room
  rw [if_neg (mt takenIff.mp taken)]
  have crowded (other : Fin n) (apart : other ≠ sender) (permitted : kernel.permits sender other = true) :
      kernel.Crowded other := by
    by_contra room
    exact taken ⟨other, apart, permitted, room⟩
  by_cases full : ∃ other, other ≠ sender ∧ kernel.permits sender other = true ∧ kernel.Crowded other
  · rw [if_pos (fullIff.mpr full), Except.error.injEq]
    obtain ⟨other, apart, permitted, -⟩ := full
    constructor
    · rintro rfl
      exact .inr ⟨rfl, ⟨other, apart, permitted⟩, crowded⟩
    · rintro (⟨-, forbidden⟩ | ⟨rfl, -⟩)
      · cases (forbidden other apart).symm.trans permitted
      · rfl
  · rw [if_neg (mt fullIff.mp full), Except.error.injEq]
    have forbidden (other : Fin n) (apart : other ≠ sender) : kernel.permits sender other = false := by
      rw [Bool.eq_false_iff]
      exact fun permitted => full ⟨other, apart, permitted, crowded other apart permitted⟩
    constructor
    · rintro rfl
      exact .inl ⟨rfl, forbidden⟩
    · rintro (⟨rfl, -⟩ | ⟨-, ⟨other, apart, permitted⟩, -⟩)
      · rfl
      · cases (forbidden other apart).symm.trans permitted

theorem response_eq_error_iff {receiver : TaskId} {error : MailError} :
    kernel.response sender receiver = .error error ↔ kernel.RefusesSend sender receiver error := by
  have small : n ≤ 128 := Nat.le_trans kernel.fits (by decide)
  by_cases all : receiver = .everyone
  · rw [all]
    exact response_everyone_iff
  rw [response, if_neg all]
  cases named : receiver.within n with
  | none =>
    have nameless := (TaskId.within_eq_none_iff small).mp named
    cases error <;> simp [RefusesSend, all, nameless]
  | some place =>
    have sameIff (other : Fin n) : receiver = .ofIndex other ↔ other = place := by
      rw [← TaskId.within_eq_some_iff small, named, Option.some.injEq, eq_comm]
    cases error <;> simp [RefusesSend, all, sameIff, verdict_eq_error_iff]

theorem send_refused_iff (formed : kernel.ready.WellFormed) (isCaller : kernel.current = some sender)
    {receiver : TaskId} {error : MailError} :
    send receiver message kernel = .ok (.error error) after ↔
      kernel.RefusesSend sender receiver error ∧
        after = kernel.record (.send (.ofIndex sender) receiver error.code) := by
  obtain ⟨result, final, came⟩ := send_comes_back formed isCaller message
  obtain ⟨caller, middle, known, sends, rfl⟩ := send_recorded came
  cases known.symm.trans isCaller
  rw [came, ← response_eq_error_iff, ← sends.result_eq]
  constructor
  · rintro ⟨⟩
    exact ⟨rfl, by rw [sends.eq_of_error]; rfl⟩
  · rintro ⟨rfl, rfl⟩
    rw [sends.eq_of_error]
    rfl

/-! ## Receiving and restarting -/

/-- The conditions under which a receive of a task is refused, by cause. -/
def RefusesReceive (kernel : Kernel width M S n) (caller : Fin n) : MailError → Prop
  | .fifoEmpty => kernel.mail caller = []
  | .receiveMismatch =>
      kernel.mail caller ≠ [] ∧
        ∀ entry ∈ kernel.mail caller, (kernel.taskAt caller).waiting.contains entry.sender = false
  | .badParam | .denied | .fifoFull => False

theorem receive_refused_iff {caller : Fin n} (isCaller : kernel.current = some caller) {error : MailError} :
    receive kernel = .ok (.error error) after ↔
      kernel.RefusesReceive caller error ∧ after = kernel.record (.receive (.ofIndex caller) .nobody error.code) := by
  have refusedIff : (kernel.taskAt caller).mailbox.take (kernel.taskAt caller).waiting = .error error ↔
      kernel.RefusesReceive caller error := by
    rw [Mailbox.take_error_iff]
    cases error <;> simp [RefusesReceive, mail]
  obtain ⟨result, final, came⟩ := receive_comes_back isCaller
  rw [came, ← refusedIff]
  obtain ⟨place, known, ⟨entry, box, taken, rfl, rfl⟩ | ⟨cause, taken, rfl, rfl⟩⟩ := receive_recorded came
  · cases known.symm.trans isCaller
    rw [taken]
    constructor
    · rintro ⟨⟩
    · rintro ⟨⟨⟩, -⟩
  · cases known.symm.trans isCaller
    rw [taken]
    constructor
    · rintro ⟨⟩
      exact ⟨rfl, rfl⟩
    · rintro ⟨⟨⟩, rfl⟩
      rfl

theorem restart_refused_iff [Machine M S] {id : TaskId} {error : MailError} :
    restart id kernel = .ok (.error error) after ↔
      error = .badParam ∧ (∀ place : Fin n, id ≠ .ofIndex place) ∧ after = kernel := by
  rw [← TaskId.within_eq_none_iff (Nat.le_trans kernel.fits (by decide))]
  constructor
  · intro came
    rcases restart_ok came with ⟨unnamed, ⟨⟩, rfl⟩ | ⟨_, _, _, -, -, -, ⟨⟩⟩
    exact ⟨rfl, unnamed, rfl⟩
  · rintro ⟨rfl, unnamed, rfl⟩
    rw [restart, unnamed]
    rfl

end Kernel

namespace Run

variable {width : Width} {M S : Type} {n : Nat} [Machine M S] {fresh kernel : Kernel width M S n}
  {history : List (Moment width M S n)} {caller : Fin n}

/-- In every state that a kernel on a table without empty sections reaches, a task that runs is refused exactly under
the conditions above, and a refusal changes nothing but the trace. A send and a receive always come back. -/
theorem refused_exactly {table : Vector TaskDesc n} {interruptTask : TaskId} {machine : M}
    (sections : ∀ place, (table.get place).firstEmpty = none)
    (made : Kernel.new table interruptTask machine = .ok fresh) (run : Run fresh history kernel)
    (isCaller : kernel.current = some caller) :
    (∀ receiver message, (∃ result after, Kernel.send receiver message kernel = .ok result after) ∧
      ∀ error after, Kernel.send receiver message kernel = .ok (.error error) after ↔
        kernel.RefusesSend caller receiver error ∧
          after = kernel.record (.send (.ofIndex caller) receiver error.code)) ∧
    ((∃ result after, Kernel.receive kernel = .ok result after) ∧
      ∀ error after, Kernel.receive kernel = .ok (.error error) after ↔
        kernel.RefusesReceive caller error ∧
          after = kernel.record (.receive (.ofIndex caller) .nobody error.code)) ∧
    ∀ id error after, Kernel.restart id kernel = .ok (.error error) after ↔
      error = .badParam ∧ (∀ place : Fin n, id ≠ .ofIndex place) ∧ after = kernel := by
  have formed := (run.orderly ((Kernel.new_ok made).orderly sections)).formed
  refine ⟨fun receiver message => ⟨?_, fun error after => ?_⟩, ⟨?_, fun error after => ?_⟩, fun id error after => ?_⟩
  · exact Kernel.send_comes_back formed isCaller message
  · exact Kernel.send_refused_iff formed isCaller
  · exact Kernel.receive_comes_back isCaller
  · exact Kernel.receive_refused_iff isCaller
  · exact Kernel.restart_refused_iff

/-- In the demo the interrupt task fills all mailboxes but its own, and can send no more. -/
theorem refused_exactly_demo : ∃ history kernel, Run Demo.fresh history kernel ∧
    kernel.RefusesSend 0 .everyone .fifoFull ∧
    Kernel.send .everyone 7 kernel = .ok (.error .fifoFull) (kernel.record (.send (.ofIndex 0) .everyone (-1))) := by
  have computed : (replay? Demo.fresh [.call .init, .call (.send .everyone 1), .call (.send .everyone 2),
      .call (.send .everyone 3), .call (.send .everyone 4)]).any (fun final =>
        decide (final.2.current = some 0 ∧ ∀ other : Fin 4, other ≠ 0 →
          final.2.permits 0 other = true ∧ (final.2.mail other).length = mailboxCapacity)) = true := by
    decide +kernel
  obtain ⟨history, kernel, run, facts⟩ := Run.of_replay? computed
  obtain ⟨isCaller, full⟩ := of_decide_eq_true facts
  have refuses : kernel.RefusesSend 0 .everyone .fifoFull :=
    .inr ⟨rfl, ⟨1, by decide, (full 1 (by decide)).1⟩, fun other apart _ => (full other apart).2⟩
  obtain ⟨sends, -, -⟩ := refused_exactly Demo.table_sections Demo.new_table run isCaller
  exact ⟨history, kernel, run, refuses, ((sends .everyone 7).2 .fifoFull _).mpr ⟨refuses, rfl⟩⟩

end Run

end CoopKernel
