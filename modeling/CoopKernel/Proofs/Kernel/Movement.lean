import Mathlib.Data.List.FinRange
import CoopKernel.Proofs.Kernel.Run

/-! # How calls move tasks through the ready list

A direct call takes some places out of the ready list and then puts some places in, one after the
other. `takesOut` says which leave and `turns` in which order places can come; `perform_moves` that the
list after the call is what is left of the list before it, with some places made ready in that order. A
call whose answer chooses a task ends with that task current and at the head, and any other call keeps
the current task. Everything about the order of tasks follows from this one statement.
-/

namespace CoopKernel.Kernel

open ReadyOrder

variable {width : Width} {M S : Type} {n : Nat} {kernel after : Kernel width M S n}

/-- The places that a direct call takes out of the ready list, be it only to put them back. -/
def takesOut (kernel : Kernel width M S n) : Call width → Fin n → Bool
  | .init, _ => true
  | .wait _, place => kernel.current == some place
  | .yield, place => kernel.current == some place
  | .exit, place => kernel.current == some place
  | .restart id, place => id.within n == some place
  | _, _ => false

/-- All places in the order in which a scheduling call can make them ready: the interrupt task comes last, in the
pass, and any other place before it. -/
def passTurns (kernel : Kernel width M S n) : List (Fin n) :=
  (List.finRange n).filter (fun place => kernel.interruptTask != some place) ++ kernel.interruptTask.toList

/-- All places in the order in which a direct call can make them ready. -/
def turns (kernel : Kernel width M S n) : Call width → List (Fin n)
  | .init => List.finRange n
  | .send _ _ => List.finRange n
  | _ => kernel.passTurns

theorem passTurns_perm (kernel : Kernel width M S n) : kernel.passTurns.Perm (List.finRange n) := by
  have nodup : kernel.passTurns.Nodup := by
    rw [passTurns]
    refine List.nodup_append.mpr ⟨(List.nodup_finRange n).filter _, ?_, ?_⟩
    · cases kernel.interruptTask <;> simp
    · intro place inside other isInterruptTask same
      subst same
      simp_all
  refine (List.perm_ext_iff_of_nodup nodup (List.nodup_finRange n)).mpr fun place => ?_
  by_cases isInterruptTask : kernel.interruptTask = some place <;> simp [passTurns, isInterruptTask]

/-- Every place has its turn, and has it once. -/
theorem turns_perm (kernel : Kernel width M S n) (call : Call width) :
    (kernel.turns call).Perm (List.finRange n) := by
  cases call with
  | init => exact .refl _
  | send => exact .refl _
  | _ => exact kernel.passTurns_perm

theorem nodup_turns (call : Call width) : (kernel.turns call).Nodup :=
  (kernel.turns_perm call).nodup_iff.mpr (List.nodup_finRange n)

/-- What a direct call does to the ready list, to the choice of the current task, and not to the table. -/
structure Movement (kernel : Kernel width M S n) (call : Call width) (result : Answer width n)
    (after : Kernel width M S n) : Prop where
  formed : after.ready.WellFormed
  admits : Admits kernel.rank (kernel.turns call)
    (kernel.ready.toList.filter fun place => !kernel.takesOut call place)
    after.ready.toList
  chosen : ∀ place, result.chosen? = some place → after.current = some place ∧ after.ready.head = some place
  kept : result.chosen? = none → after.current = kernel.current ∧ ∀ place, kernel.takesOut call place = false
  desc_eq : after.desc = kernel.desc
  interruptTask_eq : after.interruptTask = kernel.interruptTask

/-- Taking the caller out is dropping one place of the order. -/
theorem erase_eq_filter (formed : kernel.ready.WellFormed) {place : Fin n} (takes : Fin n → Bool)
    (only : ∀ other, takes other = (some place == some other)) :
    kernel.ready.toList.erase place = kernel.ready.toList.filter fun other => !takes other := by
  rw [formed.nodup.erase_eq_filter]
  congr 1
  funext other
  rw [only, bne, Option.some_beq_some, Bool.beq_comm]

/-- The turns of a scheduling call that puts nobody back itself. -/
theorem admits_passTurns {order final : List (Fin n)}
    (admits : Admits kernel.rank kernel.interruptTask.toList order final) :
    Admits kernel.rank kernel.passTurns order final :=
  (Admits.none _ order).append admits

/-- The turns of a scheduling call that puts one place back itself. If that place is the interrupt task, the pass
finds it in the list. -/
theorem admits_passTurns_of_requeue {place : Fin n} {order final : List (Fin n)}
    (admits : Admits kernel.rank kernel.interruptTask.toList (enqueue kernel.rank place order) final) :
    Admits kernel.rank kernel.passTurns order final := by
  by_cases isInterruptTask : kernel.interruptTask = some place
  · rw [isInterruptTask] at admits
    have listEq : final = enqueue kernel.rank place order := by
      cases admits with
      | pass later => cases later; rfl
      | enter later =>
        cases later
        exact enqueue_of_mem (mem_enqueue.mpr (.inl rfl))
    apply admits_passTurns
    rw [isInterruptTask, listEq]
    exact .enter (.done _)
  · have other : place ∈ (List.finRange n).filter fun place => kernel.interruptTask != some place := by
      simp [isInterruptTask]
    exact (Admits.of_mem other order).append admits

section Passes

variable [Machine M S]

namespace Scheduled

variable {before : Kernel width M S n} {chosen : Fin n}

theorem current_eq (scheduled : Scheduled before chosen after) : after.current = some chosen := by
  rw [scheduled.after_eq]

theorem tasks_eq (scheduled : Scheduled before chosen after) : after.tasks = before.tasks := by
  rw [scheduled.after_eq]

theorem desc_eq (scheduled : Scheduled before chosen after) : after.desc = before.desc := by
  rw [scheduled.after_eq]
  rfl

theorem interruptTask_eq (scheduled : Scheduled before chosen after) :
    after.interruptTask = before.interruptTask := by
  rw [scheduled.after_eq]

/-- A pass makes ready nobody but the interrupt task. -/
theorem admits (scheduled : Scheduled before chosen after) (formed : before.ready.WellFormed) :
    after.ready.WellFormed ∧
      Admits before.rank before.interruptTask.toList before.ready.toList after.ready.toList := by
  have served := scheduled.served
  generalize after.ready = ready at served
  cases served with
  | kept _ => exact ⟨formed, .none _ _⟩
  | readied isInterruptTask _ _ inserted =>
    obtain ⟨formedAfter, listEq⟩ := formed.of_insert inserted
    rw [isInterruptTask, listEq]
    exact ⟨formedAfter, .enter (.done _)⟩

end Scheduled

/-- A scheduling call takes places out, puts at most one back, and ends with a pass. -/
theorem Movement.of_scheduled {call : Call width} {result : Answer width n} {middle : Kernel width M S n}
    {chosen : Fin n} (scheduled : Scheduled middle chosen after) (formed : middle.ready.WellFormed)
    (placed : middle.ready.toList = (kernel.ready.toList.filter fun place => !kernel.takesOut call place) ∨
      ∃ place, middle.ready.toList =
        enqueue kernel.rank place (kernel.ready.toList.filter fun place => !kernel.takesOut call place))
    (turnsEq : kernel.turns call = kernel.passTurns) (chosenEq : result.chosen? = some chosen)
    (descEq : middle.desc = kernel.desc) (interruptTaskEq : middle.interruptTask = kernel.interruptTask) :
    Movement kernel call result after := by
  obtain ⟨formedAfter, admits⟩ := scheduled.admits formed
  rw [rank_of_desc descEq, interruptTaskEq] at admits
  refine ⟨formedAfter, ?_, ?_, ?_, scheduled.desc_eq.trans descEq, scheduled.interruptTask_eq.trans interruptTaskEq⟩
  · rw [turnsEq]
    rcases placed with listEq | ⟨place, listEq⟩
    · rw [listEq] at admits
      exact admits_passTurns admits
    · rw [listEq] at admits
      exact admits_passTurns_of_requeue admits
  · intro place same
    cases same.symm.trans chosenEq
    exact ⟨scheduled.current_eq, scheduled.head_eq⟩
  · intro nobody
    cases nobody.symm.trans chosenEq

/-- A scheduling call that takes one place out and does not put it back. -/
theorem Movement.of_removed {call : Call width} {result : Answer width n} {middle : Kernel width M S n}
    {place chosen : Fin n} (scheduled : Scheduled middle chosen after) (formed : kernel.ready.WellFormed)
    (removed : middle.ready = kernel.ready.remove place)
    (only : ∀ other, kernel.takesOut call other = (some place == some other))
    (turnsEq : kernel.turns call = kernel.passTurns) (chosenEq : result.chosen? = some chosen)
    (descEq : middle.desc = kernel.desc) (interruptTaskEq : middle.interruptTask = kernel.interruptTask) :
    Movement kernel call result after := by
  refine .of_scheduled scheduled ?_ (.inl ?_) turnsEq chosenEq descEq interruptTaskEq
  · rw [removed]
    exact formed.remove place
  · rw [removed, formed.toList_remove, erase_eq_filter formed _ only]

/-- A scheduling call that takes one place out and puts it back behind its equals. -/
theorem Movement.of_requeued {call : Call width} {result : Answer width n} {middle : Kernel width M S n}
    {place chosen : Fin n} (scheduled : Scheduled middle chosen after) (formed : kernel.ready.WellFormed)
    (inserted : (kernel.ready.remove place).insert kernel.rank place = .ok middle.ready)
    (only : ∀ other, kernel.takesOut call other = (some place == some other))
    (turnsEq : kernel.turns call = kernel.passTurns) (chosenEq : result.chosen? = some chosen)
    (descEq : middle.desc = kernel.desc) (interruptTaskEq : middle.interruptTask = kernel.interruptTask) :
    Movement kernel call result after := by
  obtain ⟨formedAfter, listEq⟩ := (formed.remove place).of_insert inserted
  refine .of_scheduled scheduled formedAfter (.inr ⟨place, ?_⟩) turnsEq chosenEq descEq interruptTaskEq
  rw [listEq, formed.toList_remove, erase_eq_filter formed _ only]

theorem schedule_moves {chosen : Fin n} (formed : kernel.ready.WellFormed)
    (came : schedule kernel = .ok chosen after) : Movement kernel .schedule (.next chosen) after := by
  refine .of_scheduled (schedule_ok came) formed (.inl ?_) rfl rfl rfl rfl
  exact (List.filter_eq_self.mpr fun _ _ => rfl).symm

theorem yieldTask_moves {chosen : Fin n} (formed : kernel.ready.WellFormed)
    (came : yieldTask kernel = .ok chosen after) : Movement kernel .yield (.next chosen) after := by
  obtain ⟨place, ready, isCaller, inserted, scheduled⟩ := yieldTask_ok came
  exact .of_requeued scheduled formed inserted (fun other => by rw [takesOut, isCaller]) rfl rfl rfl rfl

theorem exit_moves {chosen : Fin n} (formed : kernel.ready.WellFormed)
    (came : exit kernel = .ok chosen after) : Movement kernel .exit (.next chosen) after := by
  obtain ⟨place, isCaller, scheduled⟩ := exit_ok came
  exact .of_removed scheduled formed rfl (fun other => by rw [takesOut, isCaller]) rfl rfl (desc_setWaiting ..) rfl

theorem wait_moves {mask : TaskMask} {result : Except MailError Unit} {chosen : Fin n}
    (formed : kernel.ready.WellFormed) (came : wait mask kernel = .ok (result, chosen) after) :
    Movement kernel (.wait mask) (.waited result chosen) after := by
  obtain ⟨place, middle, isCaller, -, waits, scheduled⟩ := wait_ok came
  have only (other : Fin n) : kernel.takesOut (.wait mask) other = (some place == some other) := by
    rw [takesOut, isCaller]
  cases waits with
  | yields _ inserted => exact .of_requeued scheduled formed inserted only rfl rfl rfl rfl
  | stays _ _ inserted => exact .of_requeued scheduled formed inserted only rfl rfl (desc_setWaiting ..) rfl
  | blocks _ _ => exact .of_removed scheduled formed rfl only rfl rfl (desc_setWaiting ..) rfl

end Passes

/-! ## Mail -/

/-- The parts of a kernel that only starting and scheduling change. -/
structure Keeps (before after : Kernel width M S n) : Prop where
  desc_eq : after.desc = before.desc
  current_eq : after.current = before.current
  interruptTask_eq : after.interruptTask = before.interruptTask

theorem Keeps.trans {first middle last : Kernel width M S n} (left : Keeps first middle)
    (right : Keeps middle last) :
    Keeps first last :=
  ⟨right.desc_eq.trans left.desc_eq, right.current_eq.trans left.current_eq,
    right.interruptTask_eq.trans left.interruptTask_eq⟩

/-- Two kernels with one table and one interrupt task. -/
structure SameTable (before after : Kernel width M S n) : Prop where
  desc_eq : after.desc = before.desc
  interruptTask_eq : after.interruptTask = before.interruptTask

theorem SameTable.trans {first middle last : Kernel width M S n} (left : SameTable first middle)
    (right : SameTable middle last) : SameTable first last :=
  ⟨right.desc_eq.trans left.desc_eq, right.interruptTask_eq.trans left.interruptTask_eq⟩

theorem Keeps.sameTable (keeps : Keeps kernel after) : SameTable kernel after := ⟨keeps.desc_eq, keeps.interruptTask_eq⟩

theorem Waits.sameTable {place : Fin n} {wanted : TaskMask} (waits : Waits kernel place wanted after) :
    SameTable kernel after := by
  cases waits with
  | yields => exact ⟨rfl, rfl⟩
  | stays => exact ⟨desc_setWaiting .., rfl⟩
  | blocks => exact ⟨desc_setWaiting .., rfl⟩

theorem Delivery.keeps {sender receiver : Fin n} {message : Message width} {result : Except MailError Unit}
    (delivery : Delivery kernel sender receiver message result after) : Keeps kernel after := by
  cases delivery with
  | denied => exact ⟨rfl, rfl, rfl⟩
  | full => exact ⟨rfl, rfl, rfl⟩
  | posted => exact ⟨desc_setMailbox .., rfl, rfl⟩
  | woke => exact ⟨desc_setMailbox .., rfl, rfl⟩

/-- A delivery makes ready nobody but the receiver. -/
theorem Delivery.admits {sender receiver : Fin n} {message : Message width} {result : Except MailError Unit}
    (delivery : Delivery kernel sender receiver message result after) (formed : kernel.ready.WellFormed) :
    after.ready.WellFormed ∧ Admits kernel.rank [receiver] kernel.ready.toList after.ready.toList := by
  cases delivery with
  | denied => exact ⟨formed, .none _ _⟩
  | full => exact ⟨formed, .none _ _⟩
  | posted => exact ⟨formed, .none _ _⟩
  | woke _ _ _ inserted =>
    obtain ⟨formedAfter, listEq⟩ := formed.of_insert inserted
    refine ⟨formedAfter, ?_⟩
    rw [listEq]
    exact .enter (.done _)

theorem Deliveries.keeps {sender : Fin n} {message : Message width} {places : List (Fin n)}
    {results : List (Except MailError Unit)} (deliveries : Deliveries sender message places results kernel after) :
    Keeps kernel after := by
  induction deliveries with
  | done => exact ⟨rfl, rfl, rfl⟩
  | own _ ih => exact ih
  | next _ delivery _ ih => exact delivery.keeps.trans ih

theorem Deliveries.admits {sender : Fin n} {message : Message width} {places : List (Fin n)}
    {results : List (Except MailError Unit)} (deliveries : Deliveries sender message places results kernel after)
    (formed : kernel.ready.WellFormed) :
    after.ready.WellFormed ∧ Admits kernel.rank places kernel.ready.toList after.ready.toList := by
  induction deliveries with
  | done => exact ⟨formed, .done _⟩
  | own _ ih =>
    obtain ⟨formedAfter, admits⟩ := ih formed
    exact ⟨formedAfter, .pass admits⟩
  | next _ delivery _ ih =>
    obtain ⟨formedMiddle, first⟩ := delivery.admits formed
    obtain ⟨formedAfter, rest⟩ := ih formedMiddle
    rw [rank_of_desc delivery.keeps.desc_eq] at rest
    exact ⟨formedAfter, first.append rest⟩

theorem Sends.keeps {sender : Fin n} {receiver : TaskId} {message : Message width} {result : Except MailError Unit}
    (sends : Sends kernel sender receiver message result after) : Keeps kernel after := by
  cases sends with
  | toAll _ deliveries => exact deliveries.keeps
  | toOne _ _ delivery => exact delivery.keeps
  | toNobody => exact ⟨rfl, rfl, rfl⟩

/-- What a call that neither starts nor schedules does to the ready list. -/
theorem Movement.of_keeps {call : Call width} {result : Answer width n} (keeps : Keeps kernel after)
    (formed : after.ready.WellFormed)
    (admits : Admits kernel.rank (kernel.turns call) kernel.ready.toList after.ready.toList)
    (nobody : result.chosen? = none) (stays : ∀ place, kernel.takesOut call place = false) :
    Movement kernel call result after := by
  refine ⟨formed, ?_, ?_, fun _ => ⟨keeps.current_eq, stays⟩, keeps.desc_eq, keeps.interruptTask_eq⟩
  · rwa [List.filter_eq_self.mpr fun place _ => by rw [stays, Bool.not_false]]
  · intro place chosenEq
    cases nobody.symm.trans chosenEq

theorem send_moves {receiver : TaskId} {message : Message width} {result : Except MailError Unit}
    (formed : kernel.ready.WellFormed) (came : send receiver message kernel = .ok result after) :
    Movement kernel (.send receiver message) (.sent result) after := by
  obtain ⟨sender, middle, -, sends, afterEq⟩ := send_ok came
  rw [afterEq]
  cases sends with
  | toAll _ deliveries =>
    obtain ⟨formedAfter, admits⟩ := deliveries.admits formed
    have keeps := deliveries.keeps
    exact .of_keeps ⟨keeps.desc_eq, keeps.current_eq, keeps.interruptTask_eq⟩ formedAfter admits rfl fun _ => rfl
  | @toOne place _ _ _ _ delivery =>
    obtain ⟨formedAfter, admits⟩ := delivery.admits formed
    have keeps := delivery.keeps
    refine .of_keeps ⟨keeps.desc_eq, keeps.current_eq, keeps.interruptTask_eq⟩ formedAfter ?_ rfl fun _ => rfl
    exact admits.of_singleton (List.mem_finRange place)
  | toNobody => exact .of_keeps ⟨rfl, rfl, rfl⟩ formed (.none _ _) rfl fun _ => rfl

theorem receive_moves {result : Except MailError (Entry width)} (formed : kernel.ready.WellFormed)
    (came : receive kernel = .ok result after) : Movement kernel .receive (.received result) after := by
  obtain ⟨place, -, ⟨entry, box, -, -, afterEq⟩ | ⟨error, -, -, afterEq⟩⟩ := receive_ok came
  · rw [afterEq]
    exact .of_keeps ⟨desc_setMailbox .., rfl, rfl⟩ formed (.none _ _) rfl fun _ => rfl
  · rw [afterEq]
    exact .of_keeps ⟨rfl, rfl, rfl⟩ formed (.none _ _) rfl fun _ => rfl

/-! ## Starting tasks -/

section Starts

variable [Machine M S]

theorem Started.keeps {place : Fin n} (started : Started kernel place after) : Keeps kernel after := by
  obtain ⟨context, -, afterEq⟩ := started.rebuilt
  refine ⟨started.desc_eq, ?_, ?_⟩ <;> rw [afterEq] <;> rfl

theorem Starts.keeps {places : List (Fin n)} (starts : Starts places kernel after) : Keeps kernel after := by
  induction starts with
  | done => exact ⟨rfl, rfl, rfl⟩
  | next _ started _ ih => exact started.keeps.trans ih

/-- Starting a task settles its links and puts it into the order. -/
theorem Started.threads {place : Fin n} {settled : Fin n → Prop} {order : List (Fin n)}
    (started : Started kernel place after) (threads : kernel.ready.Threads settled order) (absent : place ∉ order) :
    after.ready.Threads (fun other => other = place ∨ settled other) (enqueue kernel.rank place order) := by
  obtain ⟨ready, inserted, threadsAfter⟩ := (threads.isolate absent).insert (.inl rfl)
  rw [started.inserted] at inserted
  cases inserted
  exact threadsAfter

/-- A task that was taken out of the list to be started over goes in again behind its equals. -/
theorem Started.threads_over {place : Fin n} {event : Event}
    (started : Started ((kernel.record event).unready place) place after) (formed : kernel.ready.WellFormed) :
    after.ready.Threads (fun _ => True) (enqueue kernel.rank place (kernel.ready.toList.erase place)) := by
  have removed : (kernel.ready.remove place).Threads (fun _ => True) (kernel.ready.toList.erase place) :=
    ReadyList.Threads.remove formed trivial
  have threads := started.threads removed formed.nodup.not_mem_erase
  exact threads.mono (fun _ _ => .inr trivial) fun _ _ => trivial

/-- The start of a task touches no link of another place that is not settled. -/
theorem Started.links_eq {place other : Fin n} {settled : Fin n → Prop} {order : List (Fin n)}
    (started : Started kernel place after) (threads : kernel.ready.Threads settled order) (absent : place ∉ order)
    (apart : other ≠ place) (unsettled : ¬settled other) :
    after.ready.links.get other = kernel.ready.links.get other := by
  have neither : ¬(other = place ∨ settled other) := not_or.mpr ⟨apart, unsettled⟩
  rw [(threads.isolate absent).links_of_unsettled (.inl rfl) absent started.inserted neither, ReadyList.isolate,
    ReadyList.links_setLinks, if_neg (Ne.symm apart)]

/-- Starting the tasks of some places, none of which is settled yet, settles them all and makes them all ready. The
links of places that are still not settled are what they were. -/
theorem Starts.threads {places order : List (Fin n)} {settled : Fin n → Prop} (starts : Starts places kernel after)
    (nodup : places.Nodup) (threads : kernel.ready.Threads settled order)
    (unsettled : ∀ place ∈ places, ¬settled place) :
    after.ready.Threads (fun place => place ∈ places ∨ settled place) (enqueueAll kernel.rank places order) ∧
      ∀ place, place ∉ places → ¬settled place →
        after.ready.links.get place = kernel.ready.links.get place := by
  induction starts generalizing order settled with
  | done =>
    refine ⟨threads.mono (fun _ early => ?_) fun _ member => .inr (threads.settled_of_mem _ member),
      fun _ _ _ => rfl⟩
    exact early.resolve_left List.not_mem_nil
  | @next place rest _ _ _ _ started _ ih =>
    obtain ⟨fresh, nodupRest⟩ := List.nodup_cons.mp nodup
    have absent : place ∉ order := fun member =>
      unsettled place (List.mem_cons_self ..) (threads.settled_of_mem place member)
    have unsettledRest (other : Fin n) (later : other ∈ rest) : ¬(other = place ∨ settled other) := by
      rintro (rfl | early)
      · exact fresh later
      · exact unsettled other (List.mem_cons_of_mem _ later) early
    obtain ⟨threadsRest, linksRest⟩ := ih nodupRest (started.threads threads absent) unsettledRest
    rw [rank_of_desc started.desc_eq] at threadsRest
    constructor
    · refine threadsRest.mono (fun other either => ?_) fun other member => ?_
      · rcases either with inside | early
        · exact (List.mem_cons.mp inside).symm.imp_right .inl
        · exact .inr (.inr early)
      · rcases threadsRest.settled_of_mem other member with inside | rfl | early
        · exact .inl (List.mem_cons_of_mem _ inside)
        · exact .inl (List.mem_cons_self ..)
        · exact .inr early
    · intro other outside early
      rw [List.mem_cons, not_or] at outside
      rw [linksRest other outside.2 (not_or.mpr ⟨outside.1, early⟩), started.links_eq threads absent outside.1 early]

/-- With all places started, from a list whose members are forgotten, the list holds them all, in the order in which they
came. -/
theorem Starts.threads_finRange (starts : Starts (List.finRange n) kernel after)
    (nobody : kernel.ready.Threads (fun _ => False) []) :
    after.ready.Threads (fun _ => True) (enqueueAll kernel.rank (List.finRange n) []) := by
  have threads := (starts.threads (List.nodup_finRange n) nobody fun _ _ impossible => impossible).1
  exact threads.mono (fun place _ => .inl (List.mem_finRange place)) fun _ _ => trivial

/-- With every place started, the list holds every place. -/
theorem startTasks_all_ok {result : Except ConfigError Unit} (bootable : kernel.Bootable)
    (came : startTasks (List.finRange n) { kernel with ready := kernel.ready.clear, current := none } =
      .ok result after) :
    result = .ok () ∧ after.desc = kernel.desc ∧ after.interruptTask = kernel.interruptTask ∧
      after.ready.WellFormed ∧
      Admits kernel.rank (List.finRange n) [] after.ready.toList ∧ ∀ place, place ∈ after.ready.toList := by
  have cleared : Bootable { kernel with ready := kernel.ready.clear, current := none } := bootable
  obtain ⟨resultEq, starts⟩ := startTasks_starts cleared came
  have threads := starts.threads_finRange (ReadyList.threads_clear kernel.ready)
  have keeps := starts.keeps
  refine ⟨resultEq, keeps.desc_eq, keeps.interruptTask_eq, threads.wellFormed, ?_, fun place => ?_⟩ <;>
    rw [threads.toList_eq]
  · exact .all _ _
  · exact mem_enqueueAll.mpr (.inl (List.mem_finRange place))

/-- A pass over a list that holds every place leaves the list alone. -/
theorem Scheduled.ready_eq_of_full {chosen : Fin n} (scheduled : Scheduled kernel chosen after)
    (formed : kernel.ready.WellFormed) (full : ∀ place, place ∈ kernel.ready.toList) :
    after.ready = kernel.ready := by
  have served := scheduled.served
  generalize after.ready = ready at served
  cases served with
  | kept _ => rfl
  | @readied place _ _ _ absent _ =>
    rw [formed.contains_iff.mpr (full place)] at absent
    cases absent

theorem init_sections {first : Fin n} (came : init kernel = .ok (.ok first) after) : kernel.Bootable := by
  rcases init_ok came with ⟨error, -, impossible⟩ | ⟨started, _, _, began, -⟩
  · cases impossible
  · cases startTasks_ok began with
    | all starts => exact fun place => starts.sections place (List.mem_finRange place)

theorem init_moves {result : Except ConfigError (Fin n)} (bootable : kernel.Bootable)
    (came : init kernel = .ok result after) : Movement kernel .init (.booted result) after := by
  rcases init_ok came with ⟨error, began, -⟩ | ⟨started, scheduled, chosen, began, passed, rfl, -, afterEq⟩
  · cases (startTasks_all_ok bootable began).1
  · obtain ⟨-, descEq, interruptTaskEq, formed, admits, full⟩ := startTasks_all_ok bootable began
    have readyEq : after.ready = started.ready := by
      rw [afterEq]
      exact passed.ready_eq_of_full formed full
    refine ⟨readyEq ▸ formed, ?_, ?_, fun nobody => (nomatch nobody), ?_, ?_⟩
    · rw [readyEq, List.filter_eq_nil_iff.mpr fun _ _ => by simp [takesOut]]
      exact admits
    · intro place same
      cases same
      rw [afterEq]
      exact ⟨passed.current_eq, passed.head_eq⟩
    · rw [afterEq]
      exact passed.desc_eq.trans descEq
    · rw [afterEq]
      exact passed.interruptTask_eq.trans interruptTaskEq

theorem restart_moves {id : TaskId} {result : Except MailError (Fin n)} (formed : kernel.ready.WellFormed)
    (came : restart id kernel = .ok result after) : Movement kernel (.restart id) (.restarted result) after := by
  rcases restart_ok came with ⟨unnamed, rfl, rfl⟩ | ⟨place, started, chosen, named, began, scheduled, rfl⟩
  · exact .of_keeps ⟨rfl, rfl, rfl⟩ formed (.none _ _) rfl fun place => by rw [takesOut, unnamed]; rfl
  · have threads := began.threads_over formed
    have keeps := began.keeps
    refine .of_scheduled scheduled threads.wellFormed (.inr ⟨place, ?_⟩) rfl rfl
      keeps.desc_eq keeps.interruptTask_eq
    rw [threads.toList_eq, erase_eq_filter formed (kernel.takesOut (.restart id))
      fun other => by rw [takesOut, named]]

/-- Every direct call that came back moves tasks as `Movement` says. Only to start them all, they have to be such that
they can be started. -/
theorem perform_moves_of_startable {call : Call width} {result : Answer width n}
    (startable : call = .init → kernel.Bootable) (formed : kernel.ready.WellFormed) (direct : call ≠ .trap)
    (came : perform call kernel = .ok result after) : Movement kernel call result after := by
  cases perform_ok came with
  | init came => exact init_moves (startable rfl) came
  | wait came => exact wait_moves formed came
  | yield came => exact yieldTask_moves formed came
  | exit came => exact exit_moves formed came
  | schedule came => exact schedule_moves formed came
  | send came => exact send_moves formed came
  | receive came => exact receive_moves formed came
  | restart came => exact restart_moves formed came
  | trap => exact absurd rfl direct

theorem perform_moves {call : Call width} {result : Answer width n} (bootable : kernel.Bootable)
    (formed : kernel.ready.WellFormed) (direct : call ≠ .trap) (came : perform call kernel = .ok result after) :
    Movement kernel call result after :=
  perform_moves_of_startable (fun _ => bootable) formed direct came

/-! ## What stays -/

theorem Scheduled.sameTable {chosen : Fin n} (scheduled : Scheduled kernel chosen after) : SameTable kernel after :=
  ⟨scheduled.desc_eq, scheduled.interruptTask_eq⟩

theorem StartsUpTo.keeps {places : List (Fin n)} {result : Except ConfigError Unit}
    (upTo : StartsUpTo kernel places result after) : Keeps kernel after := by
  cases upTo with
  | all starts => exact starts.keeps
  | stopped _ starts _ => exact starts.keeps

theorem init_sameTable {result : Except ConfigError (Fin n)} (came : init kernel = .ok result after) :
    SameTable kernel after := by
  have cleared : SameTable kernel { kernel with ready := kernel.ready.clear, current := none } := ⟨rfl, rfl⟩
  rcases init_ok came with ⟨_, began, -⟩ | ⟨_, _, _, began, passed, -, -, afterEq⟩
  · exact cleared.trans (startTasks_ok began).keeps.sameTable
  · have started := cleared.trans (startTasks_ok began).keeps.sameTable
    rw [afterEq]
    exact (started.trans passed.sameTable).trans ⟨rfl, rfl⟩

/-- No direct call changes the table, or which task is the interrupt task, whatever state it finds. -/
theorem perform_sameTable {call : Call width} {result : Answer width n} (direct : call ≠ .trap)
    (came : perform call kernel = .ok result after) : SameTable kernel after := by
  cases perform_ok came with
  | init came => exact init_sameTable came
  | wait came =>
    obtain ⟨_, _, -, -, waits, scheduled⟩ := wait_ok came
    exact waits.sameTable.trans scheduled.sameTable
  | yield came =>
    obtain ⟨_, _, -, -, scheduled⟩ := yieldTask_ok came
    refine .trans ?_ scheduled.sameTable
    exact ⟨rfl, rfl⟩
  | exit came =>
    obtain ⟨_, -, scheduled⟩ := exit_ok came
    refine .trans ?_ scheduled.sameTable
    exact ⟨desc_setWaiting .., rfl⟩
  | schedule came => exact (schedule_ok came).sameTable
  | send came =>
    obtain ⟨_, _, -, sends, afterEq⟩ := send_ok came
    rw [afterEq]
    exact sends.keeps.sameTable.trans ⟨rfl, rfl⟩
  | receive came =>
    obtain ⟨_, -, ⟨_, _, -, -, afterEq⟩ | ⟨_, -, -, afterEq⟩⟩ := receive_ok came <;> rw [afterEq]
    · exact ⟨desc_setMailbox .., rfl⟩
    · exact ⟨rfl, rfl⟩
  | restart came =>
    rcases restart_ok came with ⟨-, -, rfl⟩ | ⟨_, _, _, -, began, scheduled, -⟩
    · exact ⟨rfl, rfl⟩
    · refine .trans ?_ (began.keeps.sameTable.trans scheduled.sameTable)
      exact ⟨rfl, rfl⟩
  | trap => exact absurd rfl direct

end Starts

end CoopKernel.Kernel
