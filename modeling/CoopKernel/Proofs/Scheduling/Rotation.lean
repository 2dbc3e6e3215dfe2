import Mathlib.Data.List.Rotate
import CoopKernel.Proofs.Kernel.Passes
import CoopKernel.Proofs.Kernel.Replay

/-! # Taking turns

While nobody waits, exits or sends, the ready tasks of the highest priority take turns. A yield takes the
first of them from the front of the list and puts it back behind the others, in front of everything of
lower priority (`TakesTurns.yieldTask`), so by induction any number of yields rotates this band of the
list by as many places and does nothing else (`Run.takes_turns`).
-/

namespace CoopKernel

open ReadyOrder

/-- What is kept comes first in a list in which nothing kept comes behind anything left out. -/
theorem filter_append_filter_not {α : Type} {keep : α → Bool} {items : List α}
    (closed : items.Pairwise fun earlier later => keep later = true → keep earlier = true) :
    items.filter keep ++ items.filter (fun item => !keep item) = items := by
  induction items with
  | nil => rfl
  | cons item rest ih =>
    obtain ⟨here, later⟩ := List.pairwise_cons.mp closed
    cases kept : keep item with
    | true =>
      rw [List.filter_cons_of_pos kept, List.filter_cons_of_neg (by rw [kept]; decide), List.cons_append, ih later]
    | false =>
      have leftOut (other : α) (member : other ∈ rest) : keep other = false := by
        rw [Bool.eq_false_iff]
        exact fun keptOther => Bool.false_ne_true (kept.symm.trans (here other member keptOther))
      have noneKept : (item :: rest).filter keep = [] := by simpa [kept] using leftOut
      have allLeftOut : (item :: rest).filter (fun item => !keep item) = item :: rest := by
        simpa [kept] using leftOut
      rw [noneKept, allLeftOut, List.nil_append]

namespace Kernel

variable {width : Width} {M S : Type} {n : Nat} {kernel after : Kernel width M S n} {place other first : Fin n}
  {band others rest : List (Fin n)}

/-! ## Bands -/

/-- Whether no ready task outranks a task. -/
def isTop (kernel : Kernel width M S n) (place : Fin n) : Bool :=
  kernel.ready.toList.all fun other => !(kernel.rank other).outranks (kernel.rank place)

/-- The ready tasks of the highest priority, in the order of the list. -/
def topBand (kernel : Kernel width M S n) : List (Fin n) := kernel.ready.toList.filter kernel.isTop

/-- The ready tasks of lower priorities, in the order of the list. -/
def lowerBands (kernel : Kernel width M S n) : List (Fin n) :=
  kernel.ready.toList.filter fun place => !kernel.isTop place

theorem isTop_iff : kernel.isTop place = true ↔
    ∀ other ∈ kernel.ready.toList, (kernel.rank other).level ≤ (kernel.rank place).level := by
  simp [isTop, Priority.outranks]

theorem topBand_append_lowerBands (ranked : Ranked kernel.rank kernel.ready.toList) :
    kernel.topBand ++ kernel.lowerBands = kernel.ready.toList := by
  refine filter_append_filter_not (ranked.imp fun {earlier later} notHigher top => ?_)
  have notHigher : (kernel.rank later).level ≤ (kernel.rank earlier).level := by
    simpa [Priority.outranks] using notHigher
  rw [isTop_iff] at top ⊢
  exact fun other member => UInt8.le_trans (top other member) notHigher

/-- Nobody outranks the head of the list. -/
theorem mem_topBand_of_head (formed : kernel.ready.WellFormed) (ranked : Ranked kernel.rank kernel.ready.toList)
    (isHead : kernel.ready.head = some first) : first ∈ kernel.topBand := by
  rw [formed.head_eq] at isHead
  obtain ⟨others, listEq⟩ := List.head?_eq_some_iff.mp isHead
  rw [listEq] at ranked
  refine List.mem_filter.mpr ⟨listEq ▸ List.mem_cons_self, isTop_iff.mpr fun other member => ?_⟩
  rw [listEq] at member
  rcases List.mem_cons.mp member with rfl | later
  · exact UInt8.le_refl _
  · simpa [Priority.outranks] using (List.pairwise_cons.mp ranked).1 other later

theorem level_le_of_mem_topBand (isTop : place ∈ kernel.topBand) (member : other ∈ kernel.ready.toList) :
    (kernel.rank other).level ≤ (kernel.rank place).level :=
  isTop_iff.mp (List.mem_filter.mp isTop).2 other member

theorem level_lt_of_mem_lowerBands (isTop : place ∈ kernel.topBand) (isLower : other ∈ kernel.lowerBands) :
    (kernel.rank other).level < (kernel.rank place).level := by
  obtain ⟨member, outranked⟩ := List.mem_filter.mp isLower
  rw [Bool.not_eq_true', Bool.eq_false_iff, Ne, isTop_iff] at outranked
  rw [← UInt8.not_le]
  exact fun notLower => outranked fun third inside => UInt8.le_trans (level_le_of_mem_topBand isTop inside) notLower

variable [Machine M S]

/-! ## Turns -/

/-- Let the task that runs yield, then the one that runs next, and so on, so many times. -/
def yieldTimes : Nat → KernelM width M S n Unit
  | 0 => pure ()
  | count + 1 => do
      let _ ← yieldTask
      yieldTimes count

/-- A kernel in which the tasks of a band take turns. It is the turn of the first of them, and the other ready tasks are
of lower priority. -/
structure TakesTurns (kernel : Kernel width M S n) (band rest : List (Fin n)) : Prop where
  formed : kernel.ready.WellFormed
  listEq : kernel.ready.toList = band ++ rest
  current_eq : kernel.current = band.head?
  equals : ∀ one ∈ band, ∀ other ∈ band, (kernel.rank one).level ≤ (kernel.rank other).level
  lower : ∀ one ∈ band, ∀ other ∈ rest, (kernel.rank other).level < (kernel.rank one).level
  unneeded : ∀ place, kernel.interruptTask = some place → Machine.interruptPending kernel.machine = true →
    place ∈ kernel.ready.toList

namespace TakesTurns

/-- A turn ends behind the equals and in front of the rest. -/
theorem insert (turns : TakesTurns kernel (first :: others) rest) :
    ∃ ready, (kernel.ready.remove first).insert kernel.rank first = .ok ready ∧ ready.WellFormed ∧
      ready.toList = others ++ [first] ++ rest := by
  have removedEq : (kernel.ready.remove first).toList = others ++ rest := by
    rw [turns.formed.toList_remove, turns.listEq, List.cons_append, List.erase_cons_head]
  have absent : first ∉ others ++ rest := by
    have nodup := turns.formed.nodup
    rw [turns.listEq, List.cons_append, List.nodup_cons] at nodup
    exact nodup.1
  obtain ⟨ready, inserted, formed, queued⟩ := (turns.formed.remove first).insert kernel.rank first
  refine ⟨ready, inserted, formed, ?_⟩
  rw [queued, removedEq, enqueue_append absent, List.append_assoc, List.singleton_append]
  · intro other member
    simpa [Priority.outranks] using turns.equals first List.mem_cons_self other (List.mem_cons_of_mem _ member)
  · intro other isHead
    simpa [Priority.outranks] using turns.lower first List.mem_cons_self other (List.mem_of_mem_head? isHead)

/-- After a yield it is the next one's turn. -/
theorem yieldTask (turns : TakesTurns kernel (first :: others) rest) :
    ∃ chosen after, Kernel.yieldTask kernel = .ok chosen after ∧ TakesTurns after (others ++ [first]) rest ∧
      after = { kernel with ready := after.ready, current := after.current, trace := after.trace } := by
  obtain ⟨ready, inserted, formed, listEq⟩ := turns.insert
  have memIff (place : Fin n) : place ∈ others ++ [first] ++ rest ↔ place ∈ first :: others ++ rest := by
    simp only [List.mem_append, List.mem_cons, List.not_mem_nil]
    tauto
  have inBand (place : Fin n) : place ∈ others ++ [first] ↔ place ∈ first :: others := by
    simp only [List.mem_append, List.mem_cons, List.not_mem_nil]
    tauto
  obtain ⟨chosen, isFirst⟩ : ∃ chosen, (others ++ [first]).head? = some chosen := by cases others <;> exact ⟨_, rfl⟩
  have isHead : ready.head = some chosen := by
    rw [formed.head_eq, listEq, List.head?_append, isFirst]
    rfl
  have unneeded (place : Fin n) (isInterruptTask : kernel.interruptTask = some place)
      (pending : Machine.interruptPending kernel.machine = true) : place ∈ ready.toList := by
    rw [listEq, memIff, ← turns.listEq]
    exact turns.unneeded place isInterruptTask pending
  have approached := approach_yield (turns.current_eq : kernel.current = some first) inserted
  have passed : schedule ({ kernel with ready := ready }.record (.yield (.ofIndex first))) = .ok chosen _ :=
    schedule_kept
      (fun place isInterruptTask pending => formed.contains_iff.mpr (unneeded place isInterruptTask pending)) isHead
  refine ⟨chosen, _, (yieldTask_approached approached).trans passed, ?_, rfl⟩
  exact {
    formed := formed
    listEq := listEq
    current_eq := isFirst.symm
    equals := fun one isOne other isOther =>
      turns.equals one ((inBand one).mp isOne) other ((inBand other).mp isOther)
    lower := fun one isOne => turns.lower one ((inBand one).mp isOne)
    unneeded := unneeded }

/-- After any number of yields the band is rotated by as many places. -/
theorem yieldTimes (turns : TakesTurns kernel band rest) (occupied : band ≠ []) (count : Nat) :
    ∃ after, Kernel.yieldTimes count kernel = .ok () after ∧ TakesTurns after (band.rotate count) rest ∧
      after = { kernel with ready := after.ready, current := after.current, trace := after.trace } := by
  -- the band for the rest of the turns is the one that the first turn leaves
  induction count generalizing kernel band with
  | zero => exact ⟨kernel, rfl, by rwa [List.rotate_zero], rfl⟩
  | succ count ih =>
    obtain ⟨first, others, rfl⟩ := List.exists_cons_of_ne_nil occupied
    obtain ⟨chosen, middle, came, turnsNext, middleEq⟩ := turns.yieldTask
    obtain ⟨after, cameRest, turnsAfter, afterEq⟩ := ih turnsNext (by simp)
    rw [List.rotate_cons_succ]
    refine ⟨after, bind_ok_iff.mpr ⟨chosen, middle, came, cameRest⟩, turnsAfter, ?_⟩
    rw [afterEq, middleEq]

end TakesTurns

end Kernel

namespace Run

variable {width : Width} {M S : Type} {n : Nat} [Machine M S] {fresh kernel : Kernel width M S n}
  {history : List (Moment width M S n)} {caller : Fin n}

/-- In every state that a kernel on a table without empty sections reaches, in which the task that runs is the head of
the ready list and no pending interrupt concerns a task outside it, yields let the ready tasks of the highest priority
run in turn. Any number of them rotates that band by as many places and changes nothing else. -/
theorem takes_turns {table : Vector TaskDesc n} {interruptTask : TaskId} {machine : M}
    (sections : ∀ place, (table.get place).firstEmpty = none)
    (made : Kernel.new table interruptTask machine = .ok fresh) (run : Run fresh history kernel)
    (isCaller : kernel.current = some caller) (isHead : kernel.ready.head = some caller)
    (unneeded : ∀ place, kernel.interruptTask = some place → Machine.interruptPending kernel.machine = true →
      place ∈ kernel.ready.toList) :
    kernel.ready.toList = kernel.topBand ++ kernel.lowerBands ∧ kernel.topBand ≠ [] ∧
      ∀ count, ∃ after, Kernel.yieldTimes count kernel = .ok () after ∧
        after.current = kernel.topBand[count % kernel.topBand.length]? ∧
        after.ready.toList = kernel.topBand.rotate (count % kernel.topBand.length) ++ kernel.lowerBands ∧
        after = { kernel with ready := after.ready, current := after.current, trace := after.trace } ∧
        (kernel.topBand.length ∣ count → after.ready = kernel.ready) := by
  have orderly := run.orderly ((Kernel.new_ok made).orderly sections)
  have formed := orderly.formed
  have listEq := Kernel.topBand_append_lowerBands orderly.ranked
  have occupied : kernel.topBand ≠ [] := List.ne_nil_of_mem (Kernel.mem_topBand_of_head formed orderly.ranked isHead)
  have turns : kernel.TakesTurns kernel.topBand kernel.lowerBands := {
    formed := formed
    listEq := listEq.symm
    current_eq := by
      rw [isCaller, ← isHead, formed.head_eq, ← listEq, List.head?_append_of_ne_nil _ occupied]
    equals := fun one isOne other isOther =>
      Kernel.level_le_of_mem_topBand isOther (List.mem_filter.mp isOne).1
    lower := fun one isOne other isOther => Kernel.level_lt_of_mem_lowerBands isOne isOther
    unneeded := unneeded }
  refine ⟨listEq.symm, occupied, fun count => ?_⟩
  obtain ⟨after, came, turnsAfter, afterEq⟩ := turns.yieldTimes occupied count
  refine ⟨after, came, ?_, ?_, afterEq, fun whole => ?_⟩
  · rw [turnsAfter.current_eq, ← List.rotate_mod]
    exact List.head?_rotate (Nat.mod_lt _ (List.length_pos_iff.mpr occupied))
  · rw [turnsAfter.listEq, List.rotate_mod]
  · have sameList : after.ready.toList = kernel.ready.toList := by
      rw [turnsAfter.listEq, ← List.rotate_mod, Nat.mod_eq_zero_of_dvd whole, List.rotate_zero, listEq]
    exact ReadyList.eq_of_threads (sameList ▸ turnsAfter.formed) formed

/-- In the demo the two applications take turns while the interrupt task and the timer are away. -/
theorem takes_turns_demo : ∃ history kernel after, Run Demo.fresh history kernel ∧ kernel.current = some 2 ∧
    kernel.ready.head = some 2 ∧ kernel.topBand = [2, 3] ∧ kernel.lowerBands = [] ∧
    Kernel.yieldTimes 3 kernel = .ok () after ∧ after.current = some 3 ∧ after.ready.toList = [3, 2] := by
  have computed : (replay? Demo.fresh [.call .init, .call .exit, .call (.wait ⟨1⟩)]).any (fun final =>
      decide (final.2.current = some 2 ∧ final.2.ready.head = some 2 ∧ final.2.topBand = [2, 3] ∧
        final.2.lowerBands = [] ∧ final.2.machine.pending = false)) = true := by
    decide +kernel
  obtain ⟨history, kernel, run, facts⟩ := Run.of_replay? computed
  obtain ⟨isCaller, isHead, bandEq, restEq, notPending⟩ := of_decide_eq_true facts
  obtain ⟨-, -, turns⟩ := takes_turns Demo.table_sections Demo.new_table run isCaller isHead
    fun _ _ pending => absurd (notPending.symm.trans pending) Bool.false_ne_true
  obtain ⟨after, came, currentEq, listEq, -⟩ := turns 3
  rw [bandEq] at currentEq listEq
  rw [restEq] at listEq
  exact ⟨history, kernel, after, run, isCaller, isHead, bandEq, restEq, came, currentEq, listEq⟩

end Run

end CoopKernel
