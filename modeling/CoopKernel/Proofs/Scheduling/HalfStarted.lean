import CoopKernel.Proofs.Scheduling.Retirement

/-! # A start that gave up

`init` forgets the head of the ready list and starts the tasks in the order of the table. In front of the
first one with an empty section it gives up, and what it leaves is a `HalfStarted` kernel: the walk from
the head finds the tasks before that place, and the links of the others are what they were. Links that
were set before count as membership, so `isReady` agrees with the walk exactly if none of them were
(`HalfStarted.countsWalked_iff`).

On a table with an empty section the tasks from there on come into play only by a restart or as the
interrupt task. While neither happens the kernel stays `Fronted`, and a start that gives up leaves no
stale links (`Run.refused_init`); one pending interrupt is enough for `refused_init_miscounts`.
-/

namespace CoopKernel

open ReadyOrder

variable {width : Width} {M S : Type} {n : Nat}

namespace Kernel

variable {kernel after : Kernel width M S n} {place : Fin n}

/-- The ids that are ready are those that the walk from the head finds. -/
def CountsWalked (kernel : Kernel width M S n) : Prop :=
  ∀ id, kernel.isReady id = true ↔ ∃ place ∈ kernel.ready.toList, id = .ofIndex place

theorem countsWalked_iff :
    kernel.CountsWalked ↔ ∀ place, kernel.ready.contains place = true ↔ place ∈ kernel.ready.toList := by
  have small : n ≤ 128 := Nat.le_trans kernel.fits (by decide)
  constructor
  · intro counts place
    have named : kernel.isReady (.ofIndex place) = true ↔ kernel.ready.contains place = true := by
      rw [isReady, ReadyList.containsId, TaskId.within_ofIndex small]
    rw [← named, counts]
    constructor
    · rintro ⟨other, member, same⟩
      rwa [TaskId.ofIndex_inj small same]
    · exact fun member => ⟨place, member, rfl⟩
  · intro counts id
    rw [isReady, ReadyList.containsId_iff_contains small]
    exact exists_congr fun place => and_congr_left' (counts place)

/-- What is left by a start that gave up in front of a place. -/
structure HalfStarted (kernel : Kernel width M S n) (place : Fin n) (after : Kernel width M S n) : Prop where
  sections : ∀ other < place, (kernel.desc other).firstEmpty = none
  mem_iff : ∀ other, other ∈ after.ready.toList ↔ other < place
  threads : after.ready.Threads (· < place) after.ready.toList
  links_eq : ∀ other, place ≤ other → after.ready.links.get other = kernel.ready.links.get other
  taskAt_eq : ∀ other, place ≤ other → after.taskAt other = kernel.taskAt other
  current_eq : after.current = none

/-- In the order of the table, what comes in front of a place is what is less. -/
theorem mem_front_iff {front rest : List (Fin n)} (placesEq : List.finRange n = front ++ place :: rest)
    (other : Fin n) : other ∈ front ↔ other < place := by
  have sorted := List.pairwise_lt_finRange n
  rw [placesEq, List.pairwise_append, List.pairwise_cons] at sorted
  obtain ⟨-, ⟨behind, -⟩, across⟩ := sorted
  constructor
  · exact fun inside => across other inside place (List.mem_cons_self ..)
  · intro less
    have member : other ∈ front ++ place :: rest := placesEq ▸ List.mem_finRange other
    rcases List.mem_append.mp member with inside | later
    · exact inside
    · rcases List.mem_cons.mp later with rfl | later
      · exact absurd less (lt_irrefl other)
      · exact absurd less (lt_asymm (behind other later))

section Starts

variable [Machine M S]

/-- A start that gives up does so in front of the first place with an empty section, whatever came before it. -/
theorem init_refused {error : ConfigError} (came : init kernel = .ok (.error error) after) :
    ∃ (place : Fin n) (kind : SectionKind), error = .emptySection (.ofIndex place) kind ∧
      (kernel.desc place).firstEmpty = some kind ∧ HalfStarted kernel place after := by
  rcases init_ok came with ⟨_, began, same⟩ | ⟨_, _, _, -, -, impossible, -⟩
  · cases same
    cases startTasks_ok began with
    | @stopped front rest place kind _ placesEq starts empty =>
      have nodup : front.Nodup := by
        have nodup := List.nodup_finRange n
        rw [placesEq] at nodup
        exact (List.nodup_append.mp nodup).1
      have less := mem_front_iff placesEq
      have nobody := ReadyList.threads_clear kernel.ready
      obtain ⟨threads, linksEq⟩ := starts.threads nodup nobody fun _ _ impossible => impossible
      have member (other : Fin n) : other ∈ after.ready.toList ↔ other < place := by
        rw [threads.toList_eq, mem_enqueueAll, less, or_iff_left List.not_mem_nil]
      have outside (other : Fin n) (late : place ≤ other) : other ∉ front :=
        fun inside => not_lt_of_ge late ((less other).mp inside)
      refine ⟨place, kind, rfl, empty, ?_, member, ?_, ?_, ?_, starts.keeps.current_eq⟩
      · exact fun other early => starts.sections other ((less other).mpr early)
      · rw [← threads.toList_eq] at threads
        exact threads.mono (fun other early => .inl ((less other).mpr early)) fun other => (member other).mp
      · exact fun other late => linksEq other (outside other late) not_false
      · exact fun other late => starts.taskAt_of_notMem (outside other late)
  · cases impossible

/-- The error of a start that gives up, with what it leaves. -/
def refusal? (kernel : Kernel width M S n) : Option (ConfigError × Kernel width M S n) :=
  match init kernel with
  | .ok (.error error) after => some (error, after)
  | _ => none

theorem refusal?_eq_some_iff {error : ConfigError} :
    kernel.refusal? = some (error, after) ↔ init kernel = .ok (.error error) after := by
  unfold refusal?
  split
  · next came => simp [came]
  · next other =>
    constructor
    · intro impossible
      cases impossible
    · exact fun came => absurd came (other error after)

end Starts

namespace HalfStarted

theorem contains_iff (half : HalfStarted kernel place after) (other : Fin n) :
    after.ready.contains other = true ↔ other < place ∨ (kernel.ready.links.get other).isLinked = true := by
  by_cases early : other < place
  · rw [half.threads.contains_iff early, half.mem_iff, or_iff_left_of_imp fun _ => early]
  · have notHead : after.ready.head ≠ some other :=
      half.threads.head_ne fun member => early ((half.mem_iff other).mp member)
    rw [or_iff_right early, ← half.links_eq other (not_lt.mp early)]
    simp [ReadyList.contains, notHead]

/-- The tasks that a start gave up on are counted as ready if their links were set before. -/
theorem countsWalked_iff (half : HalfStarted kernel place after) :
    after.CountsWalked ↔ ∀ other, place ≤ other → (kernel.ready.links.get other).isLinked = false := by
  rw [Kernel.countsWalked_iff]
  constructor
  · intro counts other late
    by_contra linked
    have member : other ∈ after.ready.toList :=
      (counts other).mp ((half.contains_iff other).mpr (.inr (Bool.not_eq_false _ ▸ linked)))
    exact not_lt_of_ge late ((half.mem_iff other).mp member)
  · intro unlinked other
    rw [half.contains_iff, half.mem_iff, or_iff_left_of_imp]
    intro linked
    by_contra early
    rw [unlinked other (not_lt.mp early)] at linked
    cases linked

end HalfStarted

/-! ## Tables with an empty section -/

/-- Only tasks in front of a place have come into play: nobody else is ready, runs or waits. -/
structure Fronted (kernel : Kernel width M S n) (place : Fin n) : Prop where
  formed : kernel.ready.WellFormed
  seated : ∀ caller, kernel.current = some caller → caller ∈ kernel.ready.toList
  ready_lt : ∀ other ∈ kernel.ready.toList, other < place
  unwaiting : ∀ other, place ≤ other → (kernel.taskAt other).waiting = .empty

namespace Fronted

theorem of_core (fronted : kernel.Fronted place) (same : after.core = kernel.core) : after.Fronted place := by
  have readyEq : after.ready = kernel.ready := congrArg Core.ready same
  have currentEq : after.current = kernel.current := congrArg Core.current same
  refine ⟨?_, ?_, ?_, fun other late => ?_⟩
  · rw [readyEq]
    exact fronted.formed
  · rw [readyEq, currentEq]
    exact fronted.seated
  · rw [readyEq]
    exact fronted.ready_lt
  · exact (congrFun (congrArg Core.waiting same) other).trans (fronted.unwaiting other late)

theorem unlinked (fronted : kernel.Fronted place) {other : Fin n} (late : place ≤ other) :
    (kernel.ready.links.get other).isLinked = false := by
  have absent : other ∉ kernel.ready.toList := fun member => not_lt_of_ge late (fronted.ready_lt other member)
  rw [fronted.formed.links_of_notMem trivial absent]
  rfl

/-- Another start that gives up in front of the place leaves the links there cleared. -/
theorem halfStarted (fronted : kernel.Fronted place) (half : HalfStarted kernel place after) : after.Fronted place where
  formed := by
    refine ⟨half.threads.nodup, half.threads.head_eq, fun _ _ => trivial, fun other _ => ?_⟩
    by_cases early : other < place
    · exact half.threads.links_eq other early
    · have absent (list : ReadyList n) (less : ∀ other ∈ list.toList, other < place) : other ∉ list.toList :=
        fun member => early (less other member)
      rw [half.links_eq other (not_lt.mp early),
        fronted.formed.links_of_notMem trivial (absent _ fronted.ready_lt)]
      have absentAfter := absent after.ready fun other => (half.mem_iff other).mp
      rw [following_of_notMem absentAfter, preceding_of_notMem absentAfter]
  seated caller isCurrent := by cases half.current_eq.symm.trans isCurrent
  ready_lt other := (half.mem_iff other).mp
  unwaiting other late := by rw [half.taskAt_eq other late, fronted.unwaiting other late]

end Fronted

/-- The first place with an empty section. -/
structure StopsAt (kernel : Kernel width M S n) (place : Fin n) : Prop where
  empty : (kernel.desc place).firstEmpty ≠ none
  sections : ∀ other < place, (kernel.desc other).firstEmpty = none

namespace StopsAt

theorem of_desc (stops : kernel.StopsAt place) (descEq : after.desc = kernel.desc) : after.StopsAt place := by
  refine ⟨?_, ?_⟩
  · rw [descEq]
    exact stops.empty
  · rw [descEq]
    exact stops.sections

theorem unique (stops : kernel.StopsAt place) {other : Fin n} (otherStops : kernel.StopsAt other) : place = other := by
  rcases lt_trichotomy place other with less | same | less
  · exact absurd (otherStops.sections place less) stops.empty
  · exact same
  · exact absurd (stops.sections other less) otherStops.empty

end StopsAt

theorem HalfStarted.stopsAt {kind : SectionKind} (half : HalfStarted kernel place after)
    (empty : (kernel.desc place).firstEmpty = some kind) : kernel.StopsAt place :=
  ⟨fun none => (nomatch none.symm.trans empty), half.sections⟩

section Calls

variable [Machine M S]

/-- A direct call brings nobody into play from the first empty section on, unless it restarts him or he is the
interrupt task. -/
theorem Fronted.perform {call : Call width} {result : Answer width n} (fronted : kernel.Fronted place)
    (stops : kernel.StopsAt place) (interrupts : ∀ other, kernel.interruptTask = some other → other < place)
    (restarts : ∀ (id : TaskId) other, call = .restart id → id.within n = some other → other < place)
    (direct : call ≠ .trap) (came : Kernel.perform call kernel = .ok result after) : after.Fronted place := by
  by_cases starting : call = .init
  · subst starting
    cases perform_ok came with
    | @init outcome _ came =>
      cases outcome with
      | ok first => exact absurd (init_sections came place) stops.empty
      | error error =>
        obtain ⟨other, kind, -, empty, half⟩ := init_refused came
        obtain rfl := stops.unique (half.stopsAt empty)
        exact fronted.halfStarted half
  · have movement := perform_moves_of_startable (fun same => absurd same starting) fronted.formed direct came
    have absent (other : Fin n) (late : place ≤ other) : other ∉ kernel.ready.toList :=
      fun member => not_lt_of_ge late (fronted.ready_lt other member)
    have kept (other : Fin n) (late : place ≤ other) : (kernel.traffic other call result).isReset = false := by
      refine Bool.eq_false_iff.mpr fun reset => ?_
      rcases isReset_traffic.mp reset with same | ⟨id, same, named⟩
      · exact starting same
      · exact not_lt_of_ge late (restarts id other same named)
    refine ⟨movement.formed, movement.current_mem fronted.seated, fun other member => ?_, fun other late => ?_⟩
    · by_contra early
      have late := not_lt.mp early
      -- nobody from there on is started or waits, which leaves one way in
      have interrupted := interrupted_of_entrance fronted.formed fronted.seated direct came (kept other late)
        (fronted.unwaiting other late) (absent other late) member
      exact early (interrupts other interrupted.1)
    · have notOwn (isCaller : kernel.current = some other) : call.isOwn = false :=
        absurd (fronted.seated other isCaller) (absent other late)
      have untouched := takesOut_of_silent (kept other late) notOwn
      rw [(perform_touches direct came untouched).waiting_eq, fronted.unwaiting other late]

end Calls

theorem Fresh.fronted {table : Vector TaskDesc n} (fresh : kernel.Fresh table) (place : Fin n) :
    kernel.Fronted place := by
  refine ⟨?_, fun caller isCurrent => ?_, fun other member => ?_, fun other _ => fresh.waiting_eq other⟩
  · rw [fresh.ready_eq]
    exact .empty
  · cases fresh.current_eq.symm.trans isCurrent
  · rw [fresh.toList_eq] at member
    cases member

end Kernel

section Histories

variable [Machine M S]

def Moment.restarts (moment : Moment width M S n) (place : Fin n) : Bool :=
  match moment.call? with
  | some (.restart id) => id.within n == some place
  | _ => false

theorem Kernel.Fronted.moment {moment : Moment width M S n} {place : Fin n} (fronted : moment.before.Fronted place)
    (stops : moment.before.StopsAt place)
    (interrupts : ∀ other, moment.before.interruptTask = some other → other < place)
    (restarts : ∀ other, moment.restarts other = true → other < place) (came : moment.Came) :
    moment.after.Fronted place := by
  rcases Moment.performs_or_keeps came with ⟨call, result, middle, performs⟩ | ⟨-, same⟩
  · refine Fronted.of_core (fronted.perform stops interrupts ?_ performs.direct performs.performed) performs.core_eq
    rintro id other rfl named
    refine restarts other ?_
    rw [Moment.restarts, performs.call_eq]
    exact beq_iff_eq.mpr named
  · exact fronted.of_core same

namespace Run

variable {start fresh kernel after : Kernel width M S n} {history : List (Moment width M S n)} {place : Fin n}

theorem fronted (run : Run start history kernel) (fronted : start.Fronted place) (stops : start.StopsAt place)
    (interrupts : ∀ other, start.interruptTask = some other → other < place)
    (restarts : ∀ moment ∈ history, ∀ other, moment.restarts other = true → other < place) : kernel.Fronted place := by
  induction run with
  | start => exact fronted
  | @step earlier moment before came ih =>
    have same := before.sameTable
    have sofar := ih fun other member => restarts other (List.mem_append_left _ member)
    have last := restarts moment (List.mem_append_right _ (List.mem_singleton_self _))
    refine sofar.moment (stops.of_desc same.desc_eq) ?_ last came
    rw [same.interruptTask_eq]
    exact interrupts

/-- Whatever happened before, a start that gives up does so in front of the first place with an empty section and
leaves the tasks before it ready. `isReady` then agrees with the walk exactly if the links from there on were cleared;
they were if nobody from there on is the interrupt task or was restarted. -/
theorem refused_init {table : Vector TaskDesc n} {interruptTask : TaskId} {machine : M} {error : ConfigError}
    (made : Kernel.new table interruptTask machine = .ok fresh) (run : Run fresh history kernel)
    (refused : Kernel.init kernel = .ok (.error error) after) :
    ∃ (place : Fin n) (kind : SectionKind), error = .emptySection (.ofIndex place) kind ∧
      (table.get place).firstEmpty = some kind ∧ kernel.HalfStarted place after ∧
      (after.CountsWalked ↔ ∀ other, place ≤ other → (kernel.ready.links.get other).isLinked = false) ∧
      ((∀ other, fresh.interruptTask = some other → other < place) →
        (∀ moment ∈ history, ∀ other, moment.restarts other = true → other < place) → after.CountsWalked) := by
  obtain ⟨place, kind, errorEq, empty, half⟩ := Kernel.init_refused refused
  have isFresh := Kernel.new_ok made
  have descEq := run.sameTable.desc_eq
  have stops : fresh.StopsAt place := (half.stopsAt empty).of_desc descEq.symm
  rw [descEq, isFresh.desc_eq] at empty
  refine ⟨place, kind, errorEq, empty, half, half.countsWalked_iff, fun interrupts restarts => ?_⟩
  have fronted := run.fronted (isFresh.fronted place) stops interrupts restarts
  exact half.countsWalked_iff.mpr fun other late => fronted.unlinked late

end Run

end Histories

namespace Demo

/-- The demo's table, but for one of the equals, whose text section is empty. -/
def emptied : Vector TaskDesc 4 :=
  table.mapIdx fun index desc => if index = 2 then { desc with text := ⟨desc.text.address, 0⟩ } else desc

theorem fits_emptied : 4 ≤ maxTasks := by decide

/-- A kernel on that table, on a host where nothing has happened. -/
def unstartable (interruptTask : Fin 4) : Kernel .eight HostMachine HostContext 4 where
  tasks := emptied.map fun desc => ⟨desc, {}, TaskMask.empty, Mailbox.empty⟩
  ready := ReadyList.empty
  current := none
  interruptTask := some interruptTask
  machine := {}
  trace := KernelTrace.new
  fits := fits_emptied

theorem new_emptied (interruptTask : Fin 4) :
    Kernel.new emptied (.ofIndex interruptTask) ({} : HostMachine) = .ok (unstartable interruptTask) := by
  match interruptTask with
  | 0 => rfl
  | 1 => rfl
  | 2 => rfl
  | 3 => rfl

end Demo

namespace Run

/-- The interrupt task stands in front of the empty section. It retires, the other task in front is started over, an
interrupt comes, and another start leaves no stale links. -/
theorem refused_init_demo : ∃ history kernel error after, Run (Demo.unstartable 0) history kernel ∧
    kernel.ready.toList = [0, 1] ∧ Kernel.init kernel = .ok (.error error) after ∧
    error = .emptySection (.ofIndex 2) .text ∧ after.CountsWalked := by
  have computed : (replay? (Demo.unstartable 0) [.call .init, .call .schedule, .call .exit,
      .call (.restart (.ofIndex 1)), .outside HostMachine.raise, .call .schedule]).any (fun final =>
        decide (final.2.ready.toList = [0, 1]) &&
          final.1.all (fun moment => decide (∀ other, moment.restarts other = true → other < 2)) &&
          final.2.refusal?.any fun left => decide (left.1 = .emptySection (.ofIndex 2) .text)) = true := by
    decide +kernel
  obtain ⟨history, kernel, run, facts⟩ := Run.of_replay? computed
  rw [Bool.and_eq_true, Bool.and_eq_true, decide_eq_true_eq] at facts
  obtain ⟨⟨listEq, unrestarted⟩, gaveUp⟩ := facts
  obtain ⟨⟨error, after⟩, left, isError⟩ := (Option.any_eq_true ..).mp gaveUp
  obtain rfl : error = .emptySection (.ofIndex 2) .text := of_decide_eq_true isError
  have refused := Kernel.refusal?_eq_some_iff.mp left
  refine ⟨history, kernel, _, after, run, listEq, refused, rfl, ?_⟩
  obtain ⟨place, kind, errorEq, -, -, -, counts⟩ := refused_init (Demo.new_emptied 0) run refused
  obtain rfl : place = 2 := TaskId.ofIndex_inj (by decide) (ConfigError.emptySection.inj errorEq).1.symm
  refine counts (by decide) fun moment member other => ?_
  exact of_decide_eq_true (List.all_eq_true.mp unrestarted moment member) other

/-- The interrupt task stands behind the empty section. An interrupt makes it ready, and after another start `isReady`
still says so of it. -/
theorem refused_init_miscounts : ∃ history kernel error after,
    Kernel.new Demo.emptied (.ofIndex 3) ({} : HostMachine) = .ok (Demo.unstartable 3) ∧
    Run (Demo.unstartable 3) history kernel ∧ Kernel.init kernel = .ok (.error error) after ∧
    after.ready.toList = [0, 1] ∧ after.isReady (.ofIndex 3) = true ∧ ¬after.CountsWalked := by
  have computed : (replay? (Demo.unstartable 3) [.call .init, .outside HostMachine.raise, .call .schedule]).any
      (fun final => final.2.refusal?.any fun left =>
        decide (left.2.ready.toList = [0, 1] ∧ left.2.isReady (.ofIndex 3) = true)) = true := by
    decide +kernel
  obtain ⟨history, kernel, run, gaveUp⟩ := Run.of_replay? computed
  obtain ⟨⟨error, after⟩, left, facts⟩ := (Option.any_eq_true ..).mp gaveUp
  obtain ⟨listEq, isReady⟩ := of_decide_eq_true facts
  have refused := Kernel.refusal?_eq_some_iff.mp left
  refine ⟨history, kernel, error, after, Demo.new_emptied 3, run, refused, listEq, isReady, fun counts => ?_⟩
  obtain ⟨place, member, same⟩ := (counts _).mp isReady
  have three : place = 3 := (TaskId.ofIndex_inj (by decide) same).symm
  rw [listEq, three] at member
  exact absurd member (by decide)

end Run

end CoopKernel
