import Mathlib.Data.List.Sort
import Mathlib.Data.List.TakeWhile
import CoopKernel.Ready

/-! # The order of ready places

The ready list as a plain sequence of places. `following` and `preceding` say what the links of a
place have to be, and `following_insert` what one more place changes there. `enqueue` is the policy:
a newcomer goes in front of the first place that it outranks. `Admits` relates a sequence to the one
after some places, in a given order, were made ready; a call of the kernel does no more than that.
Nothing here speaks of links that stand beside the table.
-/

namespace CoopKernel.ReadyOrder

variable {n : Nat}

def following : List (Fin n) → Fin n → Option (Fin n)
  | [], _ => none
  | first :: rest, place => if first = place then rest.head? else following rest place

def preceding (order : List (Fin n)) (place : Fin n) : Option (Fin n) := following order.reverse place

theorem following_of_notMem {order : List (Fin n)} {place : Fin n} (absent : place ∉ order) :
    following order place = none := by
  induction order with
  | nil => rfl
  | cons first rest ih =>
    rw [List.mem_cons, not_or] at absent
    rw [following, if_neg (Ne.symm absent.1), ih absent.2]

theorem preceding_of_notMem {order : List (Fin n)} {place : Fin n} (absent : place ∉ order) :
    preceding order place = none :=
  following_of_notMem (by rwa [List.mem_reverse])

theorem following_append_cons {front back : List (Fin n)} {place : Fin n} (fresh : place ∉ front) :
    following (front ++ place :: back) place = back.head? := by
  induction front with
  | nil => simp [following]
  | cons first rest ih =>
    rw [List.mem_cons, not_or] at fresh
    rw [List.cons_append, following, if_neg (Ne.symm fresh.1), ih fresh.2]

theorem preceding_append_cons {front back : List (Fin n)} {place : Fin n} (fresh : place ∉ back) :
    preceding (front ++ place :: back) place = front.getLast? := by
  have reversed : (front ++ place :: back).reverse = back.reverse ++ place :: front.reverse := by simp
  rw [preceding, reversed, following_append_cons (by rwa [List.mem_reverse]), List.head?_reverse]

/-- What follows the last place of a front part is the first place of the back part. -/
theorem following_getLast {front back : List (Fin n)} {place : Fin n} (nodup : (front ++ back).Nodup)
    (last : front.getLast? = some place) : following (front ++ back) place = back.head? := by
  obtain ⟨init, rfl⟩ := List.getLast?_eq_some_iff.mp last
  rw [List.append_assoc, List.singleton_append] at nodup ⊢
  refine following_append_cons fun inside => ?_
  exact (List.nodup_append.mp nodup).2.2 place inside place (List.mem_cons_self ..) rfl

/-- One more place takes over the successor of the place in front of it; other successors stay. -/
theorem following_insert {front back : List (Fin n)} {newcomer : Fin n} (nodup : (front ++ back).Nodup)
    (fresh : newcomer ∉ front ++ back) (place : Fin n) :
    following (front ++ newcomer :: back) place =
      if place = newcomer then back.head?
      else if front.getLast? = some place then some newcomer else following (front ++ back) place := by
  by_cases same : place = newcomer
  · subst same
    rw [if_pos rfl, following_append_cons fun inside => fresh (List.mem_append_left _ inside)]
  rw [if_neg same]
  induction front with
  | nil => rw [if_neg (by simp), List.nil_append, following, if_neg (Ne.symm same), List.nil_append]
  | cons first rest ih =>
    have fresh' : newcomer ∉ rest ++ back := fun inside => fresh (List.mem_cons_of_mem _ inside)
    rw [List.cons_append, List.nodup_cons] at nodup
    by_cases here : first = place
    · subst here
      cases rest with
      | nil => simp [following]
      | cons second rest =>
        have notLast : (first :: second :: rest).getLast? ≠ some first := fun last => by
          rw [List.getLast?_cons_cons] at last
          exact nodup.1 (List.mem_append_left _ (List.mem_of_getLast? last))
        rw [if_neg notLast]
        simp [following]
    · rw [List.cons_append, following, if_neg here, ih nodup.2 fresh', List.cons_append, following, if_neg here]
      cases rest with
      | nil => simp [here]
      | cons second rest => rw [List.getLast?_cons_cons]

/-- One more place takes over the predecessor of the place behind it; other predecessors stay. -/
theorem preceding_insert {front back : List (Fin n)} {newcomer : Fin n} (nodup : (front ++ back).Nodup)
    (fresh : newcomer ∉ front ++ back) (place : Fin n) :
    preceding (front ++ newcomer :: back) place =
      if place = newcomer then front.getLast?
      else if back.head? = some place then some newcomer else preceding (front ++ back) place := by
  have reversed : (front ++ newcomer :: back).reverse = back.reverse ++ newcomer :: front.reverse := by simp
  have nodup' : (back.reverse ++ front.reverse).Nodup := by
    rw [← List.reverse_append]
    exact List.nodup_reverse.mpr nodup
  have fresh' : newcomer ∉ back.reverse ++ front.reverse := by
    rwa [← List.reverse_append, List.mem_reverse]
  rw [preceding, reversed, following_insert nodup' fresh', List.head?_reverse, List.getLast?_reverse,
    preceding, List.reverse_append]

/-- The order after a place is made ready: a member keeps its position, a newcomer goes in front of the
first place that it outranks. -/
def enqueue (rank : Fin n → Priority) (place : Fin n) (order : List (Fin n)) : List (Fin n) :=
  if place ∈ order then order
  else order.orderedInsert (fun a b => (rank a).outranks (rank b) = true) place

/-- No place comes behind one that it outranks. -/
def Ranked (rank : Fin n → Priority) (order : List (Fin n)) : Prop :=
  order.Pairwise fun a b => (rank b).outranks (rank a) = false

variable {rank : Fin n → Priority}

theorem enqueue_of_mem {place : Fin n} {order : List (Fin n)} (member : place ∈ order) :
    enqueue rank place order = order := if_pos member

/-- A newcomer splits the order: everything in front is not outranked, and the next place is. -/
theorem enqueue_split (rank : Fin n → Priority) {place : Fin n} {order : List (Fin n)} (absent : place ∉ order) :
    ∃ front back, order = front ++ back ∧ enqueue rank place order = front ++ place :: back ∧
      (∀ other ∈ front, (rank place).outranks (rank other) = false) ∧
      ∀ other, back.head? = some other → (rank place).outranks (rank other) = true := by
  refine ⟨_, _,
    (List.takeWhile_append_dropWhile (p := fun other => decide ¬(rank place).outranks (rank other))).symm,
    ?_, ?_, ?_⟩
  · rw [enqueue, if_neg absent, List.orderedInsert_eq_take_drop]
  · intro other inside
    simpa using List.mem_takeWhile_imp inside
  · intro other first
    have fails := List.head?_dropWhile_not (fun other => decide ¬(rank place).outranks (rank other)) order
    rw [first] at fails
    simpa using fails

@[simp] theorem mem_enqueue {place other : Fin n} {order : List (Fin n)} :
    other ∈ enqueue rank place order ↔ other = place ∨ other ∈ order := by
  unfold enqueue
  split
  · next member => exact ⟨.inr, fun either => either.elim (fun same => same ▸ member) id⟩
  · exact List.mem_orderedInsert _

/-- The order after places were made ready one after the other. -/
def enqueueAll (rank : Fin n → Priority) (places order : List (Fin n)) : List (Fin n) :=
  places.foldl (fun order place => enqueue rank place order) order

theorem mem_enqueueAll {other : Fin n} {places order : List (Fin n)} :
    other ∈ enqueueAll rank places order ↔ other ∈ places ∨ other ∈ order := by
  unfold enqueueAll
  induction places generalizing order with
  | nil => simp
  | cons place rest ih =>
    rw [List.foldl_cons, ih, mem_enqueue, List.mem_cons]
    tauto

/-- A relation between earlier and later places survives a newcomer that has it to both sides. -/
theorem pairwise_enqueue {related : Fin n → Fin n → Prop} {place : Fin n} {order : List (Fin n)}
    (ranked : Ranked rank order) (pairwise : order.Pairwise related)
    (ahead : ∀ other ∈ order, (rank place).outranks (rank other) = true → related place other)
    (behind : ∀ other ∈ order, (rank place).outranks (rank other) = false → related other place) :
    (enqueue rank place order).Pairwise related := by
  unfold enqueue
  split
  · exact pairwise
  next absent =>
    clear absent
    induction order with
    | nil => exact List.pairwise_singleton ..
    | cons first rest ih =>
      obtain ⟨firstRank, restRank⟩ := List.pairwise_cons.mp ranked
      obtain ⟨firstRelated, restRelated⟩ := List.pairwise_cons.mp pairwise
      rw [List.orderedInsert_cons]
      split
      · next outranked =>
        refine List.pairwise_cons.mpr ⟨fun other inside => ahead other inside ?_, pairwise⟩
        rcases List.mem_cons.mp inside with rfl | inside
        · exact outranked
        · -- the rest of a ranked order is no more important than its first place
          have notHigher := firstRank other inside
          simp only [Priority.outranks, decide_eq_true_eq, decide_eq_false_iff_not,
            UInt8.not_lt] at outranked notHigher ⊢
          exact UInt8.lt_of_le_of_lt notHigher outranked
      · next stays =>
        have stays : (rank place).outranks (rank first) = false := Bool.eq_false_iff.mpr stays
        refine List.pairwise_cons.mpr ⟨fun other inside => ?_, ih restRank restRelated
          (fun other inside => ahead other (List.mem_cons_of_mem _ inside))
          (fun other inside => behind other (List.mem_cons_of_mem _ inside))⟩
        rcases (List.mem_orderedInsert _).mp inside with rfl | inside
        · exact behind first (List.mem_cons_self ..) stays
        · exact firstRelated other inside

theorem outranks_asymm {a b : Priority} (higher : a.outranks b = true) : b.outranks a = false := by
  simp only [Priority.outranks, decide_eq_true_eq, decide_eq_false_iff_not, UInt8.not_lt] at higher ⊢
  exact UInt8.le_of_lt higher

theorem Ranked.enqueue {order : List (Fin n)} (ranked : Ranked rank order) (place : Fin n) :
    Ranked rank (enqueue rank place order) :=
  pairwise_enqueue ranked ranked (fun _ _ higher => outranks_asymm higher) (fun _ _ notHigher => notHigher)

/-- A place that is passed by a front part and stopped by what comes behind that goes in between. -/
theorem enqueue_append {place : Fin n} {front back : List (Fin n)} (absent : place ∉ front ++ back)
    (passed : ∀ other ∈ front, (rank place).outranks (rank other) = false)
    (stopped : ∀ other, back.head? = some other → (rank place).outranks (rank other) = true) :
    enqueue rank place (front ++ back) = front ++ place :: back := by
  rw [enqueue, if_neg absent]
  clear absent
  induction front with
  | nil =>
    cases back with
    | nil => rfl
    | cons first rest => rw [List.nil_append, List.orderedInsert_cons, if_pos (stopped first rfl), List.nil_append]
  | cons first rest ih =>
    have stays : ¬(rank place).outranks (rank first) = true := by simp [passed first (List.mem_cons_self ..)]
    rw [List.cons_append, List.orderedInsert_cons, if_neg stays,
      ih fun other inside => passed other (List.mem_cons_of_mem _ inside), List.cons_append]

/-- A place that joined a sequence: behind the last place of its own priority or a higher one. -/
def Joined (rank : Fin n → Priority) (place : Fin n) (order final : List (Fin n)) : Prop :=
  ∃ front back, order = front ++ back ∧ final = front ++ place :: back ∧
    (∀ other ∈ front, (rank place).level ≤ (rank other).level) ∧
    ∀ other ∈ back, (rank other).level < (rank place).level

/-- In a sequence in the order of priorities, a newcomer goes behind the last place of its own priority or a higher
one. -/
theorem joined_enqueue {place : Fin n} {order : List (Fin n)} (ranked : Ranked rank order) (absent : place ∉ order) :
    Joined rank place order (enqueue rank place order) := by
  obtain ⟨front, back, rfl, queued, passed, stopped⟩ := enqueue_split rank absent
  refine ⟨front, back, rfl, queued, fun other inside => ?_, fun other inside => ?_⟩
  · simpa [Priority.outranks] using passed other inside
  · cases back with
    | nil => exact absurd inside List.not_mem_nil
    | cons first rest =>
      have lower : (rank first).level < (rank place).level := by simpa [Priority.outranks] using stopped first rfl
      rcases List.mem_cons.mp inside with rfl | later
      · exact lower
      · obtain ⟨behind, -⟩ := List.pairwise_cons.mp (List.pairwise_append.mp ranked).2.1
        have notHigher : (rank other).level ≤ (rank first).level := by
          simpa [Priority.outranks] using behind other later
        exact UInt8.lt_of_le_of_lt notHigher lower

/-- What making some of the given places ready, in the given order, does to a sequence. -/
inductive Admits (rank : Fin n → Priority) : List (Fin n) → List (Fin n) → List (Fin n) → Prop
  | done (order : List (Fin n)) : Admits rank [] order order
  | pass {place : Fin n} {rest order final : List (Fin n)} (later : Admits rank rest order final) :
      Admits rank (place :: rest) order final
  | enter {place : Fin n} {rest order final : List (Fin n)}
      (later : Admits rank rest (enqueue rank place order) final) :
      Admits rank (place :: rest) order final

namespace Admits

variable {places more order middle final : List (Fin n)}

/-- Nobody has to be made ready. -/
theorem none (places order : List (Fin n)) : Admits rank places order order := by
  induction places with
  | nil => exact .done order
  | cons place rest ih => exact .pass ih

/-- Whoever is made ready has to be among the places. -/
theorem of_mem {place : Fin n} (member : place ∈ places) (order : List (Fin n)) :
    Admits rank places order (enqueue rank place order) := by
  induction places with
  | nil => exact absurd member List.not_mem_nil
  | cons first rest ih =>
    rcases List.mem_cons.mp member with rfl | later
    · exact .enter (.none rest _)
    · exact .pass (ih later)

theorem of_singleton {place : Fin n} (admits : Admits rank [place] order final) (member : place ∈ places) :
    Admits rank places order final := by
  cases admits with
  | pass later =>
    cases later
    exact none places order
  | enter later =>
    cases later
    exact of_mem member order

theorem append (first : Admits rank places order middle) (second : Admits rank more middle final) :
    Admits rank (places ++ more) order final := by
  induction first with
  | done _ => exact second
  | pass _ ih => exact .pass (ih second)
  | enter _ ih => exact .enter (ih second)

/-- Everybody may be made ready. -/
theorem all (places order : List (Fin n)) : Admits rank places order (enqueueAll rank places order) := by
  induction places generalizing order with
  | nil => exact .done order
  | cons place rest ih => exact .enter (ih _)

theorem ranked (admits : Admits rank places order final) (ranked : Ranked rank order) : Ranked rank final := by
  induction admits with
  | done _ => exact ranked
  | pass _ ih => exact ih ranked
  | enter _ ih => exact ih (ranked.enqueue _)

theorem mem_of_mem (admits : Admits rank places order final) {place : Fin n} (member : place ∈ order) :
    place ∈ final := by
  induction admits with
  | done _ => exact member
  | pass _ ih => exact ih member
  | enter _ ih => exact ih (mem_enqueue.mpr (.inr member))

theorem mem_or_mem (admits : Admits rank places order final) {place : Fin n} (member : place ∈ final) :
    place ∈ order ∨ place ∈ places := by
  induction admits with
  | done _ => exact .inl member
  | pass _ ih => exact (ih member).imp_right (List.mem_cons_of_mem _)
  | enter _ ih =>
    rcases ih member with inside | inside
    · rcases mem_enqueue.mp inside with rfl | old
      · exact .inr (List.mem_cons_self ..)
      · exact .inl old
    · exact .inr (List.mem_cons_of_mem _ inside)

end Admits

end CoopKernel.ReadyOrder
