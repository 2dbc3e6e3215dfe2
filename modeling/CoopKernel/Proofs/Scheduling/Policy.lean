import CoopKernel.Proofs.Scheduling.Walk

/-! # Strict priority, first come first served

The ready list keeps no times. Here the times are written down beside it: `Moment.arrivals` are the
places that a moment put into the list, in the order in which it did, and the arrivals of a history make
a log in which `lastArrival` finds when a place was last put in. `Queued` relates the two: of two ready
tasks the one further ahead is more important, or equally important and put in earlier. Making places
ready keeps this (`Queued.admits`), so after every scheduling call the chosen task is the one that the
policy wants (`Run.first_come_first_served`).
-/

namespace CoopKernel

open ReadyOrder

variable {width : Width} {M S : Type} {n : Nat}

section Logs

variable {rank : Fin n → Priority} {log order final places : List (Fin n)}

/-- When a place was last put in, counted from one; zero if it never was. -/
def lastArrival (log : List (Fin n)) (place : Fin n) : Nat := log.length - log.reverse.idxOf place

theorem lastArrival_le (log : List (Fin n)) (place : Fin n) : lastArrival log place ≤ log.length := Nat.sub_le ..

/-- The newest arrival is the last one of its place, and of no other. -/
theorem lastArrival_concat (log : List (Fin n)) (newest place : Fin n) :
    lastArrival (log ++ [newest]) place = if newest = place then log.length + 1 else lastArrival log place := by
  have reversed : (log ++ [newest]).reverse = newest :: log.reverse := by
    rw [List.reverse_append, List.reverse_singleton, List.singleton_append]
  rw [lastArrival, reversed, List.length_append, List.length_singleton]
  by_cases same : newest = place
  · rw [if_pos same, same, List.idxOf_cons_self, Nat.sub_zero]
  · rw [if_neg same, List.idxOf_cons_ne _ same, Nat.succ_eq_add_one, Nat.add_sub_add_right, lastArrival]

/-- The order of ready places goes by priority, and within a priority by arrival. -/
structure Queued (rank : Fin n → Priority) (log order : List (Fin n)) : Prop where
  logged : ∀ place ∈ order, place ∈ log
  pairwise : order.Pairwise fun earlier later => (rank earlier).outranks (rank later) = true ∨
    (rank earlier).level = (rank later).level ∧ lastArrival log earlier < lastArrival log later

theorem Queued.filter (queued : Queued rank log order) (keep : Fin n → Bool) :
    Queued rank log (order.filter keep) where
  logged place member := queued.logged place (List.mem_filter.mp member).1
  pairwise := queued.pairwise.filter keep

/-- A newcomer is behind its equals, and has come later than all of them. -/
theorem Queued.enqueue (queued : Queued rank log order) (ranked : Ranked rank order) {place : Fin n}
    (absent : place ∉ order) : Queued rank (log ++ [place]) (enqueue rank place order) where
  logged other member := by
    rw [List.mem_append, List.mem_singleton]
    exact (mem_enqueue.mp member).symm.imp_left (queued.logged other)
  pairwise := by
    have stays (other : Fin n) (member : other ∈ order) :
      lastArrival (log ++ [place]) other = lastArrival log other := by
      rw [lastArrival_concat, if_neg]
      rintro rfl
      exact absent member
    have newest : lastArrival (log ++ [place]) place = log.length + 1 := by
      rw [lastArrival_concat, if_pos rfl]
    apply pairwise_enqueue ranked
    · refine queued.pairwise.imp_of_mem ?_
      intro earlier later first second related
      rwa [stays earlier first, stays later second]
    · exact fun _ _ higher => .inl higher
    · intro other member notHigher
      have early := lastArrival_le log other
      rw [newest, stays other member]
      by_cases higher : (rank other).outranks (rank place) = true
      · exact .inl higher
      · simp only [Priority.outranks, decide_eq_true_eq, decide_eq_false_iff_not, UInt8.not_lt] at higher notHigher
        exact .inr ⟨UInt8.le_antisymm higher notHigher, by omega⟩

/-- Making places ready, one after the other, adds those that were not in the order to the log. -/
theorem Queued.admits (admits : Admits rank places order final) (nodup : places.Nodup) (ranked : Ranked rank order)
    (queued : Queued rank log order) :
    Queued rank (log ++ places.filter fun place => place ∈ final ∧ place ∉ order) final := by
  induction admits generalizing log with
  | done _ => simpa using queued
  | @pass place rest order final later ih =>
    obtain ⟨fresh, nodupRest⟩ := List.nodup_cons.mp nodup
    -- a place that is passed over can only have been in the order before
    have old (member : place ∈ final) : place ∈ order := (later.mem_or_mem member).resolve_right fresh
    rw [List.filter_cons_of_neg (by simpa using old)]
    exact ih nodupRest ranked queued
  | @enter place rest order final later ih =>
    obtain ⟨fresh, nodupRest⟩ := List.nodup_cons.mp nodup
    by_cases old : place ∈ order
    · rw [enqueue_of_mem old] at later ih
      rw [List.filter_cons_of_neg (by simp [old])]
      exact ih nodupRest ranked queued
    · have member : place ∈ final := later.mem_of_mem (mem_enqueue.mpr (.inl rfl))
      have restEq : (rest.filter fun other => other ∈ final ∧ other ∉ ReadyOrder.enqueue rank place order) =
          rest.filter fun other => other ∈ final ∧ other ∉ order := by
        apply List.filter_congr
        intro other inside
        have apart : other ≠ place := by
          rintro rfl
          exact fresh inside
        simp [apart]
      have extended := ih nodupRest (ranked.enqueue place) (queued.enqueue ranked old)
      rw [restEq, List.append_assoc, List.singleton_append] at extended
      rwa [List.filter_cons_of_pos (by simp [member, old])]

end Logs

/-- Whether a direct call with its answer ends with a scheduling pass. -/
def Call.reschedules : Call width → Answer width n → Bool
  | .send _ _, _ => false
  | .receive, _ => false
  | .restart _, .restarted (.error _) => false
  | _, _ => true

namespace Kernel

variable {kernel after : Kernel width M S n} {log : List (Fin n)}

/-- What the policy asks of the task that a scheduling call chooses, with a log of arrivals. -/
structure Elected (kernel : Kernel width M S n) (log : List (Fin n)) (place : Fin n) : Prop where
  current_eq : kernel.current = some place
  head_eq : kernel.ready.head = some place
  highest : ∀ other ∈ kernel.ready.toList, (kernel.rank other).level ≤ (kernel.rank place).level
  logged : ∀ other ∈ kernel.ready.toList, other ∈ log
  earliest : ∀ other ∈ kernel.ready.toList, other ≠ place → (kernel.rank other).level = (kernel.rank place).level →
    lastArrival log place < lastArrival log other

/-- The head of a list in order of arrival is the task that the policy wants. -/
theorem elected_of_queued (queued : Queued kernel.rank log kernel.ready.toList) (formed : kernel.ready.WellFormed)
    {place : Fin n} (isCurrent : kernel.current = some place) (isHead : kernel.ready.head = some place) :
    kernel.Elected log place := by
  have headEq := formed.head_eq
  rw [isHead] at headEq
  obtain ⟨rest, listEq⟩ := List.head?_eq_some_iff.mp headEq.symm
  have pairwise := queued.pairwise
  rw [listEq] at pairwise
  obtain ⟨behind, -⟩ := List.pairwise_cons.mp pairwise
  refine ⟨isCurrent, isHead, ?_, queued.logged, ?_⟩
  · intro other member
    rw [listEq] at member
    rcases List.mem_cons.mp member with rfl | later
    · exact UInt8.le_refl _
    · rcases behind other later with higher | ⟨equal, -⟩
      · exact UInt8.le_of_lt (of_decide_eq_true higher)
      · rw [equal]
        exact UInt8.le_refl _
  · intro other member apart equal
    rw [listEq] at member
    rcases behind other ((List.mem_cons.mp member).resolve_left apart) with higher | ⟨-, earlier⟩
    · have lower := of_decide_eq_true higher
      rw [equal] at lower
      exact absurd lower (UInt8.lt_irrefl _)
    · exact earlier

section Calls

variable [Machine M S]

/-- The calls that end with a scheduling pass are those that choose a task. -/
theorem chosen?_isSome {call : Call width} {result : Answer width n} (bootable : kernel.Bootable)
    (came : perform call kernel = .ok result after) : result.chosen?.isSome = call.reschedules result := by
  cases perform_ok came with
  | init came =>
    rcases init_ok came with ⟨error, failed, -⟩ | ⟨_, _, chosen, -, -, rfl, -⟩
    · cases (startTasks_all_ok bootable failed).1
    · rfl
  | @restart id outcome => cases outcome <;> rfl
  | _ => rfl

end Calls

end Kernel

section Histories

variable [Machine M S]

namespace Moment

/-- The places that the moment put into the ready list, in the order in which it did. A place that was in the list
already counts only if the call took it out before. -/
def arrivals (moment : Moment width M S n) : List (Fin n) :=
  match moment.call? with
  | some call => (moment.before.turns call).filter fun place => moment.after.ready.contains place &&
      (moment.before.takesOut call place || !moment.before.ready.contains place)
  | none => []

def reschedules (moment : Moment width M S n) : Bool :=
  match moment.call?, moment.outcome? with
  | some call, some result => call.reschedules result
  | _, _ => false

/-- Whatever happens, the list stays in order of arrival. -/
theorem queued {moment : Moment width M S n} {log : List (Fin n)} (came : moment.Came)
    (orderly : moment.before.Orderly)
    (queued : Queued moment.before.rank log moment.before.ready.toList) :
    Queued moment.after.rank (log ++ moment.arrivals) moment.after.ready.toList := by
  rcases performs_or_keeps came with ⟨call, result, middle, performs⟩ | ⟨uncalled, same⟩
  · have movement := Kernel.perform_moves orderly.bootable orderly.formed performs.direct performs.performed
    have readyEq : moment.after.ready = middle.ready := congrArg Core.ready performs.core_eq
    have arrivalsEq : moment.arrivals = (moment.before.turns call).filter fun place => place ∈ middle.ready.toList ∧
        place ∉ moment.before.ready.toList.filter fun place => !moment.before.takesOut call place := by
      rw [arrivals, performs.call_eq]
      apply List.filter_congr
      intro place _
      rw [Bool.eq_iff_iff, readyEq]
      simp only [Bool.and_eq_true, Bool.or_eq_true, Bool.not_eq_true', Bool.eq_false_iff, ne_eq, decide_eq_true_eq,
        List.mem_filter, movement.formed.contains_iff, orderly.formed.contains_iff]
      tauto
    rw [Kernel.rank_of_desc (Moment.sameTable came).desc_eq, readyEq, arrivalsEq]
    exact (queued.filter _).admits movement.admits (Kernel.nodup_turns call) (orderly.ranked.filter _)
  · have readyEq : moment.after.ready = moment.before.ready := congrArg Core.ready same
    rw [Kernel.rank_of_desc (Moment.sameTable came).desc_eq, readyEq, arrivals, uncalled, List.append_nil]
    exact queued

end Moment

/-- All places that were put into the ready list, oldest first. -/
def arrivalLog (history : List (Moment width M S n)) : List (Fin n) := history.flatMap Moment.arrivals

namespace Run

variable {fresh kernel : Kernel width M S n} {history : List (Moment width M S n)} {moment : Moment width M S n}

theorem queued {table : Vector TaskDesc n} (isFresh : fresh.Fresh table)
    (sections : ∀ place, (table.get place).firstEmpty = none) (run : Run fresh history kernel) :
    Queued kernel.rank (arrivalLog history) kernel.ready.toList := by
  induction run with
  | start =>
    rw [isFresh.toList_eq]
    exact ⟨fun _ member => absurd member List.not_mem_nil, .nil⟩
  | @step history moment earlier came ih =>
    rw [arrivalLog, List.flatMap_append, List.flatMap_singleton]
    exact Moment.queued came (earlier.orderly (isFresh.orderly sections)) ih

/-- A call that ends with a scheduling pass makes the head of the ready list current and returns it: of the ready tasks
of the highest priority, the one that was put into the list earliest. Everything else leaves the current task. -/
theorem first_come_first_served {table : Vector TaskDesc n} {interruptTask : TaskId} {machine : M}
    (sections : ∀ place, (table.get place).firstEmpty = none)
    (made : Kernel.new table interruptTask machine = .ok fresh) (run : Run fresh (history ++ [moment]) kernel) :
    (moment.reschedules = true → ∃ place, moment.answer.bind Answer.chosen? = some place ∧
      kernel.Elected (arrivalLog (history ++ [moment])) place) ∧
    (moment.reschedules = false → kernel.current = moment.before.current) := by
  have isFresh := Kernel.new_ok made
  have queued := run.queued isFresh sections
  have formed := (run.orderly (isFresh.orderly sections)).formed
  obtain ⟨earlier, came, rfl⟩ := run.of_concat
  have orderly := earlier.orderly (isFresh.orderly sections)
  rcases Moment.performs_or_keeps came with ⟨call, result, middle, performs⟩ | ⟨uncalled, same⟩
  · have movement := Kernel.perform_moves orderly.bootable orderly.formed performs.direct performs.performed
    have choice : result.chosen?.isSome = moment.reschedules := by
      rw [Moment.reschedules, performs.call_eq, performs.outcome_eq]
      exact Kernel.chosen?_isSome orderly.bootable performs.performed
    have readyEq : moment.after.ready = middle.ready := congrArg Core.ready performs.core_eq
    have currentEq : moment.after.current = middle.current := congrArg Core.current performs.core_eq
    constructor
    · intro reschedules
      obtain ⟨place, chosen⟩ := Option.isSome_iff_exists.mp (choice.trans reschedules)
      obtain ⟨isCurrent, isHead⟩ := movement.chosen place chosen
      rw [← currentEq] at isCurrent
      rw [← readyEq] at isHead
      exact ⟨place, performs.chosen place chosen, Kernel.elected_of_queued queued formed isCurrent isHead⟩
    · intro keeps
      have nobody : result.chosen? = none := by
        rw [← Option.not_isSome_iff_eq_none, choice, keeps]
        exact Bool.false_ne_true
      rw [currentEq]
      exact (movement.kept nobody).1
  · constructor
    · intro reschedules
      rw [Moment.reschedules, uncalled] at reschedules
      cases reschedules
    · intro _
      exact congrArg Core.current same

/-- In the demo both tasks above the equals leave the list, and the first of the equals yields to the second. -/
theorem first_come_first_served_demo : ∃ history moment kernel, Run Demo.fresh (history ++ [moment]) kernel ∧
    moment.reschedules = true ∧ kernel.ready.toList = [3, 2] ∧
    arrivalLog (history ++ [moment]) = [0, 1, 2, 3, 2] ∧ kernel.Elected (arrivalLog (history ++ [moment])) 3 := by
  have computed :
    (replay? Demo.fresh [.call .init, .call .exit, .call (.wait .full), .call .yield]).any (fun final =>
      decide (final.1.getLast?.any Moment.reschedules = true ∧ final.2.ready.toList = [3, 2] ∧
        final.2.current = some 3 ∧ arrivalLog final.1 = [0, 1, 2, 3, 2])) = true := by
    decide +kernel
  obtain ⟨moments, kernel, run, facts⟩ := Run.of_replay? computed
  obtain ⟨last, listEq, isCurrent, logEq⟩ := of_decide_eq_true facts
  obtain ⟨moment, lastEq, reschedules⟩ := (Option.any_eq_true ..).mp last
  obtain ⟨history, rfl⟩ := List.getLast?_eq_some_iff.mp lastEq
  obtain ⟨place, -, elected⟩ := (first_come_first_served Demo.table_sections Demo.new_table run).1 reschedules
  cases elected.current_eq.symm.trans isCurrent
  exact ⟨history, moment, kernel, run, reschedules, listEq, logEq, elected⟩

end Run

end Histories

end CoopKernel
