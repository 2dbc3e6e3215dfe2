import CoopKernel.Proofs.Kernel.Failing

/-! # Calls and their scheduling passes

A call that reschedules does something, lets a scheduling pass run, and does something more. `approach` is
the part in front of the pass and `conclude` the part behind it; `perform_eq` says that a call consists of
these. So the states in which a pass begins are those that an approach leaves, and there the ready list is
in order (`Orderly.arranged`).

How a pass goes on is said by one lemma for each way in which a look at the machine can end. It looks at the
ready list, at the priorities, at the interrupt task and at the machine, and at nothing else: kernels that
agree on these go through it alike (`SameOutlook.schedule`).
-/

namespace CoopKernel

open ReadyOrder

namespace ReadyList

variable {n : Nat}

/-- A list whose links are in order, and whose places are in the order of priorities. -/
structure Arranged (list : ReadyList n) (rank : Fin n → Priority) : Prop where
  formed : list.WellFormed
  ranked : Ranked rank list.toList

namespace Arranged

variable {list after : ReadyList n} {rank : Fin n → Priority}

theorem remove (arranged : list.Arranged rank) (place : Fin n) : (list.remove place).Arranged rank where
  formed := arranged.formed.remove place
  ranked := by
    rw [arranged.formed.toList_remove]
    exact arranged.ranked.sublist List.erase_sublist

theorem of_insert (arranged : list.Arranged rank) {place : Fin n} (inserted : list.insert rank place = .ok after) :
    after.Arranged rank := by
  obtain ⟨formed, listEq⟩ := arranged.formed.of_insert inserted
  refine ⟨formed, ?_⟩
  rw [listEq]
  exact arranged.ranked.enqueue place

end Arranged

end ReadyList

namespace Kernel

variable {width : Width} {M S : Type} {n : Nat} {kernel other middle after : Kernel width M S n} {place chosen : Fin n}

theorem Waits.arranged {wanted : TaskMask} (waits : Waits kernel place wanted after)
    (arranged : kernel.ready.Arranged kernel.rank) : after.ready.Arranged after.rank := by
  rw [rank_of_desc waits.sameTable.desc_eq]
  cases waits with
  | yields _ inserted => exact (arranged.remove place).of_insert inserted
  | stays _ _ inserted => exact (arranged.remove place).of_insert inserted
  | blocks _ _ => exact arranged.remove place

theorem Orderly.ready_arranged (orderly : kernel.Orderly) : kernel.ready.Arranged kernel.rank :=
  ⟨orderly.formed, orderly.ranked⟩

variable [Machine M S]

/-! ## The parts of a call -/

/-- What a wait of a task does about the ready list and its waiting mask, with whether the task is blocked. -/
def arrangeWait (place : Fin n) (wanted : TaskMask) : KernelM width M S n Bool := do
  modify (·.unready place)
  if wanted.isEmpty then do
    makeReady place
    pure false
  else do
    modify (·.setWaiting place wanted)
    if (← get).hasMailFrom place wanted then
      makeReady place
      pure false
    else pure true

/-- What a call does in front of its scheduling pass. A call that ends without one is answered here; so are calls
that have no pass of their own. -/
def approach : Call width → KernelM width M S n (Option (Answer width n))
  | .init => do
      modify fun kernel => { kernel with ready := kernel.ready.clear, current := none }
      match ← startTasks (List.finRange n) with
      | .error error => return some (.booted (.error error))
      | .ok () => return none
  | .wait mask => do
      let place ← caller
      let wanted := mask ∩ ((← get).desc place).permission
      let blocked ← arrangeWait place wanted
      modify (·.record (.wait (.ofIndex place) wanted.bits blocked))
      return none
  | .yield => do
      let place ← caller
      modify (·.record (.yield (.ofIndex place)))
      modify (·.unready place)
      makeReady place
      return none
  | .exit => do
      let place ← caller
      modify (·.record (.exit (.ofIndex place)))
      modify (·.unready place)
      modify (·.setWaiting place TaskMask.empty)
      return none
  | .schedule => return none
  | .restart id => do
      match id.within n with
      | none => return some (.restarted (.error .badParam))
      | some place => do
          modify (·.record (.restart id))
          modify (·.unready place)
          startTask place
          return none
  | call => do return some (← perform call)

/-- What a call does behind its scheduling pass. -/
def conclude : Call width → Fin n → KernelM width M S n (Answer width n)
  | .init, place => do
      modify (·.record (.init (.ofIndex place)))
      switchTo TaskId.nobody place
      return .booted (.ok place)
  | .wait _, place => return .waited (.ok ()) place
  | .restart _, place => return .restarted (.ok place)
  | _, place => return .next place

/-- A call is its approach, and unless that answers it, a scheduling pass and its conclusion. -/
theorem perform_eq (call : Call width) : perform call = (do
    match ← approach call with
    | some answer => pure answer
    | none => do
        let place ← schedule
        conclude call place : KernelM width M S n _) := by
  cases call with
  | init =>
    simp only [perform, init, approach, bind_assoc]
    congr 1
    funext _
    congr 1
    funext outcome
    cases outcome <;> simp [conclude]
  | wait mask =>
    simp only [perform, wait, approach, arrangeWait, bind_assoc, pure_bind]
    congr 1
    funext place
    congr 1
    funext kernel
    congr 1
    funext _
    split
    · simp [conclude]
    · simp only [bind_assoc]
      congr 1
      funext _
      congr 1
      funext prepared
      split <;> simp [conclude]
  | yield => simp [perform, yieldTask, approach, conclude]
  | exit => simp [perform, exit, approach, conclude]
  | schedule => simp [perform, approach, conclude]
  | send receiver message => simp [perform, approach]
  | receive => simp [perform, approach]
  | restart id =>
    simp only [perform, restart, approach]
    cases id.within n <;> simp [conclude]
  | trap => simp [perform, approach]

omit [Machine M S] in
/-- What a wait arranges is one of its cases. -/
theorem arrangeWait_comes (formed : kernel.ready.WellFormed) (place : Fin n) (wanted : TaskMask) :
    ∃ blocked middle, arrangeWait place wanted kernel = .ok blocked middle ∧ Waits kernel place wanted middle := by
  obtain ⟨ready, inserted, -⟩ := (formed.remove place).insert kernel.rank place
  by_cases nobody : wanted.isEmpty = true
  · have requeued : makeReady place (kernel.unready place) = .ok () { kernel with ready := ready } :=
      makeReady_ok_iff.mpr ⟨ready, inserted, rfl⟩
    refine ⟨false, _, ?_, .yields nobody inserted⟩
    rw [arrangeWait, modify_bind, if_pos nobody, bind_of_ok requeued]
    rfl
  have somebody : wanted.isEmpty = false := Bool.eq_false_iff.mpr nobody
  have mailEq : ((kernel.unready place).setWaiting place wanted).hasMailFrom place wanted =
      kernel.hasMailFrom place wanted := hasMailFrom_setWaiting ..
  have rankEq : ((kernel.unready place).setWaiting place wanted).rank = kernel.rank :=
    rank_of_desc (desc_setWaiting ..)
  by_cases hasMail : kernel.hasMailFrom place wanted = true
  · have requeued : makeReady place ((kernel.unready place).setWaiting place wanted) =
        .ok () { kernel.setWaiting place wanted with ready := ready } := by
      rw [← rankEq] at inserted
      exact makeReady_ok_iff.mpr ⟨ready, inserted, rfl⟩
    refine ⟨false, _, ?_, .stays somebody hasMail inserted⟩
    rw [arrangeWait, modify_bind, if_neg nobody, modify_bind, get_bind, mailEq, if_pos hasMail, bind_of_ok requeued]
    rfl
  · refine ⟨true, _, ?_, .blocks somebody (Bool.eq_false_iff.mpr hasMail)⟩
    rw [arrangeWait, modify_bind, if_neg nobody, modify_bind, get_bind, mailEq, if_neg hasMail]
    rfl

/-- Nothing in front of the pass of a wait can fail. -/
theorem approach_wait (formed : kernel.ready.WellFormed) (isCaller : kernel.current = some place) (mask : TaskMask) :
    ∃ front event, Waits kernel place (mask ∩ (kernel.desc place).permission) front ∧
      approach (.wait mask) kernel = .ok none (front.record event) := by
  obtain ⟨blocked, front, arranged, waits⟩ :=
    arrangeWait_comes formed place (mask ∩ (kernel.desc place).permission)
  refine ⟨front, .wait (.ofIndex place) (mask ∩ (kernel.desc place).permission).bits blocked, waits, ?_⟩
  have called : caller kernel = .ok place kernel := caller_ok_iff.mpr ⟨isCaller, rfl⟩
  rw [approach, bind_of_ok called, get_bind, bind_of_ok arranged]
  rfl

theorem approach_yield {ready : ReadyList n} (isCaller : kernel.current = some place)
    (inserted : (kernel.ready.remove place).insert kernel.rank place = .ok ready) :
    approach .yield kernel = .ok none ({ kernel with ready := ready }.record (.yield (.ofIndex place))) := by
  have called : caller kernel = .ok place kernel := caller_ok_iff.mpr ⟨isCaller, rfl⟩
  have requeued : makeReady place ((kernel.record (.yield (.ofIndex place))).unready place) =
      .ok () ({ kernel with ready := ready }.record (.yield (.ofIndex place))) :=
    makeReady_ok_iff.mpr ⟨ready, inserted, rfl⟩
  rw [approach, bind_of_ok called, modify_bind, modify_bind, bind_of_ok requeued]
  rfl

/-- A call whose approach does not answer it goes on with the pass and the conclusion. -/
theorem perform_approached {call : Call width} (approached : approach call kernel = .ok none middle) :
    perform call kernel = (schedule >>= conclude call) middle := by
  rw [perform_eq, bind_of_ok approached]

theorem perform_of_approach {call : Call width} {result : Answer width n}
    (approached : approach call kernel = .ok none middle) (passed : schedule middle = .ok chosen other)
    (concluded : conclude call chosen other = .ok result after) : perform call kernel = .ok result after := by
  rw [perform_approached approached]
  exact bind_ok_iff.mpr ⟨chosen, other, passed, concluded⟩

/-- A yield is its approach and a pass. -/
theorem yieldTask_approached (approached : approach .yield kernel = .ok none middle) :
    yieldTask kernel = schedule middle := by
  have yieldEq : yieldTask = (approach .yield >>= fun _ => schedule : KernelM width M S n _) := by
    simp [yieldTask, approach]
  rw [yieldEq, bind_of_ok approached]

/-- A wait comes back exactly if its pass does, and is then answered with a success. -/
theorem wait_ok_iff {mask : TaskMask} {result : Except MailError Unit}
    (approached : approach (.wait mask) kernel = .ok none middle) :
    wait mask kernel = .ok (result, chosen) after ↔ result = .ok () ∧ schedule middle = .ok chosen after := by
  have performs : perform (.wait mask) kernel = (schedule >>= conclude (.wait mask)) middle :=
    perform_approached approached
  constructor
  · intro came
    have performed : perform (.wait mask) kernel = .ok (.waited result chosen) after :=
      bind_ok_iff.mpr ⟨(result, chosen), after, came, rfl⟩
    rw [performs] at performed
    obtain ⟨place, passed, scheduled, concluded⟩ := bind_ok_iff.mp performed
    cases concluded
    exact ⟨rfl, scheduled⟩
  · rintro ⟨rfl, scheduled⟩
    have performed : perform (.wait mask) kernel = .ok (.waited (.ok ()) chosen) after :=
      perform_of_approach approached scheduled rfl
    obtain ⟨⟨_, _⟩, _, came, answered⟩ := bind_ok_iff.mp performed
    cases answered
    exact came

/-- A task that is started over leaves the list in order. -/
theorem Started.arranged {event : Event} (started : Started ((kernel.record event).unready place) place after)
    (arranged : kernel.ready.Arranged kernel.rank) : after.ready.Arranged after.rank := by
  have threads := started.threads_over arranged.formed
  rw [rank_of_desc started.desc_eq]
  refine ⟨threads.wellFormed, ?_⟩
  rw [threads.toList_eq]
  have ranked : Ranked kernel.rank (kernel.ready.toList.erase place) := arranged.ranked.sublist List.erase_sublist
  exact ranked.enqueue place

/-- Where a pass begins, the ready list is in order. -/
theorem Orderly.arranged (orderly : kernel.Orderly) {call : Call width}
    (approached : approach call kernel = .ok none middle) : middle.ready.Arranged middle.rank := by
  have arranged := orderly.ready_arranged
  cases call with
  | init =>
    simp only [approach, bind_ok_iff, modify_ok_iff] at approached
    obtain ⟨_, _, rfl, outcome, started, began, approached⟩ := approached
    obtain ⟨rfl, descEq, -, formed, admits, -⟩ := startTasks_all_ok orderly.bootable began
    obtain ⟨-, rfl⟩ := pure_ok_iff.mp approached
    rw [rank_of_desc descEq]
    exact ⟨formed, admits.ranked .nil⟩
  | wait mask =>
    obtain ⟨place, _, called, -⟩ := bind_ok_iff.mp approached
    obtain ⟨isCaller, -⟩ := caller_ok_iff.mp called
    obtain ⟨front, event, waits, came⟩ := approach_wait orderly.formed isCaller mask
    cases approached.symm.trans came
    exact waits.arranged arranged
  | yield =>
    simp only [approach, bind_ok_iff, caller_ok_iff, modify_ok_iff, makeReady_ok_iff, pure_ok_iff] at approached
    obtain ⟨place, _, ⟨-, rfl⟩, _, _, rfl, _, _, rfl, _, _, ⟨ready, inserted, rfl⟩, -, rfl⟩ := approached
    exact (arranged.remove place).of_insert inserted
  | exit =>
    simp only [approach, bind_ok_iff, caller_ok_iff, modify_ok_iff, pure_ok_iff] at approached
    obtain ⟨place, _, ⟨-, rfl⟩, _, _, rfl, _, _, rfl, _, _, rfl, -, rfl⟩ := approached
    rw [rank_of_desc (desc_setWaiting ..)]
    exact arranged.remove place
  | schedule =>
    obtain ⟨-, rfl⟩ := pure_ok_iff.mp approached
    exact arranged
  | restart id =>
    rw [approach] at approached
    cases named : id.within n with
    | none =>
      rw [named] at approached
      cases (pure_ok_iff.mp approached).1
    | some place =>
      rw [named] at approached
      simp only [bind_ok_iff, modify_ok_iff, pure_ok_iff] at approached
      obtain ⟨_, _, rfl, _, _, rfl, _, started, began, -, rfl⟩ := approached
      exact (startTask_ok began).arranged arranged
  | send =>
    obtain ⟨_, _, -, impossible⟩ := bind_ok_iff.mp approached
    cases (pure_ok_iff.mp impossible).1
  | receive =>
    obtain ⟨_, _, -, impossible⟩ := bind_ok_iff.mp approached
    cases (pure_ok_iff.mp impossible).1
  | trap =>
    obtain ⟨_, _, -, impossible⟩ := bind_ok_iff.mp approached
    cases (pure_ok_iff.mp impossible).1

/-! ## The course of a pass -/

theorem serveInterrupt_kept (unneeded : ∀ place, kernel.interruptTask = some place →
    Machine.interruptPending kernel.machine = true → kernel.ready.contains place = true) :
    serveInterrupt kernel = .ok () kernel := by
  refine bind_ok_iff.mpr ⟨kernel, kernel, rfl, ?_⟩
  cases isInterruptTask : kernel.interruptTask with
  | none => rfl
  | some place =>
    have notDue : ¬(Machine.interruptPending kernel.machine && !kernel.ready.contains place) = true := by
      simpa using unneeded place isInterruptTask
    dsimp only
    rw [if_neg notDue]
    rfl

theorem serveInterrupt_readied {ready : ReadyList n} (isInterruptTask : kernel.interruptTask = some place)
    (pending : Machine.interruptPending kernel.machine = true) (absent : kernel.ready.contains place = false)
    (inserted : kernel.ready.insert kernel.rank place = .ok ready) :
    serveInterrupt kernel =
      .ok () { kernel.record (.interruptTaskReady (.ofIndex place)) with ready := ready } := by
  refine bind_ok_iff.mpr ⟨kernel, kernel, rfl, ?_⟩
  have due : (Machine.interruptPending kernel.machine && !kernel.ready.contains place) = true := by
    rw [pending, absent]
    rfl
  rw [isInterruptTask]
  dsimp only
  rw [if_pos due]
  exact bind_ok_iff.mpr ⟨⟨⟩, _, rfl, makeReady_ok_iff.mpr ⟨ready, inserted, rfl⟩⟩

/-- A look that finds no interrupt to serve finds the head of the list. -/
theorem poll_kept (unneeded : ∀ place, kernel.interruptTask = some place →
    Machine.interruptPending kernel.machine = true → kernel.ready.contains place = true) :
    poll kernel = .ok kernel.ready.head kernel :=
  bind_ok_iff.mpr ⟨(), kernel, serveInterrupt_kept unneeded, rfl⟩

/-- A look that finds an interrupt puts the interrupt task in. -/
theorem poll_readied {ready : ReadyList n} (isInterruptTask : kernel.interruptTask = some place)
    (pending : Machine.interruptPending kernel.machine = true) (absent : kernel.ready.contains place = false)
    (inserted : kernel.ready.insert kernel.rank place = .ok ready) :
    poll kernel =
      .ok ready.head { kernel.record (.interruptTaskReady (.ofIndex place)) with ready := ready } :=
  bind_ok_iff.mpr ⟨(), _, serveInterrupt_readied isInterruptTask pending absent inserted, rfl⟩

theorem sleep_of_idled {machine : M} (idled : Machine.idle kernel.machine = .ok () machine) :
    sleep kernel = .ok () { kernel.record .idle with machine := machine } :=
  bind_ok_iff.mpr ⟨⟨⟩, _, rfl, onMachine_ok_iff.mpr ⟨machine, idled, rfl⟩⟩

theorem sleep_of_stuck {fault : Fault} {machine : M} (stuck : Machine.idle kernel.machine = .error fault machine) :
    sleep kernel = .error fault { kernel.record .idle with machine := machine } :=
  bind_error_iff.mpr (.inr ⟨⟨⟩, _, rfl, onMachine_error_iff.mpr ⟨machine, stuck, rfl⟩⟩)

theorem awaitReady_of_some (left : Nat) (polled : poll kernel = .ok (some chosen) after) :
    awaitReady left kernel = .ok chosen after := by
  cases left <;> exact bind_ok_iff.mpr ⟨some chosen, after, polled, rfl⟩

/-- With nobody ready, a pass goes on where the sleep ends. -/
theorem awaitReady_of_slept (left : Nat) (polled : poll kernel = .ok none middle)
    (slept : sleep middle = .ok () after) : awaitReady (left + 1) kernel = awaitReady left after := by
  rw [awaitReady, bind_of_ok polled]
  exact bind_of_ok slept

theorem awaitReady_of_stuck (left : Nat) {fault : Fault} (polled : poll kernel = .ok none middle)
    (stuck : sleep middle = .error fault after) : awaitReady left kernel = .error fault after := by
  cases left <;> rw [awaitReady, bind_of_ok polled] <;> exact bind_of_error stuck

theorem schedule_of_awaited (awaited : awaitReady (Machine.wakeups kernel.machine) kernel = .ok chosen after) :
    schedule kernel = .ok chosen { after with current := some chosen } := by
  rw [schedule, get_bind, bind_of_ok awaited]
  rfl

theorem schedule_of_stuck {fault : Fault}
    (stuck : awaitReady (Machine.wakeups kernel.machine) kernel = .error fault after) :
    schedule kernel = .error fault after := by
  rw [schedule, get_bind, bind_of_error stuck]

/-- A pass that finds no interrupt to serve, and a task ready, chooses that task and does nothing else. -/
theorem schedule_kept (unneeded : ∀ place, kernel.interruptTask = some place →
    Machine.interruptPending kernel.machine = true → kernel.ready.contains place = true)
    (isHead : kernel.ready.head = some chosen) : schedule kernel = .ok chosen { kernel with current := some chosen } :=
  schedule_of_awaited (awaitReady_of_some _ (isHead ▸ poll_kept unneeded))

/-! ## What a pass looks at -/

/-- Kernels that look the same to a pass. -/
structure SameOutlook (kernel other : Kernel width M S n) : Prop where
  ready_eq : other.ready = kernel.ready
  rank_eq : other.rank = kernel.rank
  interruptTask_eq : other.interruptTask = kernel.interruptTask
  machine_eq : other.machine = kernel.machine

namespace SameOutlook

variable {later : Kernel width M S n}

theorem poll {head : Option (Fin n)} (same : SameOutlook kernel other) (polled : poll kernel = .ok head after) :
    ∃ later, Kernel.poll other = .ok head later ∧ SameOutlook after later := by
  obtain ⟨rfl, served, afterEq⟩ := poll_ok polled
  have machineEq : after.machine = kernel.machine := by rw [afterEq]
  have rankEq : after.rank = kernel.rank := by rw [afterEq]; rfl
  have interruptTaskEq : after.interruptTask = kernel.interruptTask := by rw [afterEq]
  rw [machineEq, ← same.machine_eq, ← same.rank_eq, ← same.interruptTask_eq, ← same.ready_eq] at served
  generalize readyEq : after.ready = ready at served
  cases served with
  | kept unneeded =>
    exact ⟨other, poll_kept unneeded, readyEq.symm, by rw [rankEq, same.rank_eq],
      by rw [interruptTaskEq, same.interruptTask_eq], by rw [machineEq, same.machine_eq]⟩
  | readied isInterruptTask pending absent inserted =>
    refine ⟨_, poll_readied isInterruptTask pending absent inserted, readyEq.symm, ?_, ?_, ?_⟩
    · exact same.rank_eq.trans rankEq.symm
    · exact same.interruptTask_eq.trans interruptTaskEq.symm
    · exact same.machine_eq.trans machineEq.symm

theorem sleep (same : SameOutlook kernel other) (slept : sleep kernel = .ok () after) :
    ∃ later, Kernel.sleep other = .ok () later ∧ SameOutlook after later := by
  obtain ⟨idled, afterEq⟩ := sleep_ok slept
  rw [← same.machine_eq] at idled
  rw [afterEq]
  exact ⟨_, sleep_of_idled idled, same.ready_eq, same.rank_eq, same.interruptTask_eq, rfl⟩

theorem awaitReady {left : Nat} (same : SameOutlook kernel other) (awaited : awaitReady left kernel = .ok chosen after) :
    ∃ later, Kernel.awaitReady left other = .ok chosen later ∧ SameOutlook after later := by
  induction left generalizing kernel other with
  | zero =>
    simp only [Kernel.awaitReady, bind_ok_iff] at awaited
    obtain ⟨head, middle, polled, awaited⟩ := awaited
    obtain ⟨later, polledOther, sameLater⟩ := same.poll polled
    cases head with
    | some place =>
      obtain ⟨rfl, rfl⟩ := pure_ok_iff.mp awaited
      exact ⟨later, awaitReady_of_some _ polledOther, sameLater⟩
    | none => simp only [bind_ok_iff, throw_ok_iff, and_false, exists_false] at awaited
  | succ left ih =>
    simp only [Kernel.awaitReady, bind_ok_iff] at awaited
    obtain ⟨head, middle, polled, awaited⟩ := awaited
    obtain ⟨later, polledOther, sameLater⟩ := same.poll polled
    cases head with
    | some place =>
      obtain ⟨rfl, rfl⟩ := pure_ok_iff.mp awaited
      exact ⟨later, awaitReady_of_some _ polledOther, sameLater⟩
    | none =>
      obtain ⟨_, awake, slept, awaited⟩ := bind_ok_iff.mp awaited
      obtain ⟨awakeOther, sleptOther, sameAwake⟩ := sameLater.sleep slept
      rw [awaitReady_of_slept left polledOther sleptOther]
      exact ih sameAwake awaited

/-- Kernels that look the same to a pass go through it alike, and change alike. -/
theorem schedule (same : SameOutlook kernel other) (came : schedule kernel = .ok chosen after) :
    ∃ later, Kernel.schedule other = .ok chosen later ∧ later = { other with
      ready := after.ready, current := after.current, machine := after.machine, trace := later.trace } := by
  obtain ⟨_, _, looked, came⟩ := bind_ok_iff.mp came
  obtain ⟨rfl, rfl⟩ := get_ok_iff.mp looked
  obtain ⟨place, awoken, awaited, came⟩ := bind_ok_iff.mp came
  obtain ⟨_, _, chose, came⟩ := bind_ok_iff.mp came
  obtain rfl := modify_ok_iff.mp chose
  obtain ⟨rfl, rfl⟩ := pure_ok_iff.mp came
  rw [← same.machine_eq] at awaited
  obtain ⟨later, awaitedOther, sameLater⟩ := same.awaitReady awaited
  obtain ⟨-, -, -, laterEq⟩ := awaitReady_ok awaitedOther
  refine ⟨_, schedule_of_awaited awaitedOther, ?_⟩
  dsimp only
  rw [← sameLater.ready_eq, ← sameLater.machine_eq, laterEq]

end SameOutlook

end Kernel

end CoopKernel
