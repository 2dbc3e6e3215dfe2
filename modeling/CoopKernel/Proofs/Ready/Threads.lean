import Mathlib.Data.Fintype.Card
import CoopKernel.Proofs.Ready.Order

/-! # Links that thread a sequence

`Threads` says that the links beside the table spell out a sequence of places. Insertion, removal and
membership are then `enqueue`, `List.erase` and `∈` on that sequence, and the walk from the head gives
the sequence back. Only the links of settled places are spoken of: while the tasks of a table are
started one by one, the links of those still to come may be anything.
-/

namespace CoopKernel.ReadyList

open ReadyOrder

variable {n : Nat}

@[simp] theorem links_setLinks (list : ReadyList n) (place other : Fin n) (links : Links n) :
    (list.setLinks place links).links.get other = if place = other then links else list.links.get other := by
  change (list.links.set place links place.isLt)[other.val] = if place = other then links else list.links[other.val]
  simp only [Vector.getElem_set, Fin.val_inj]

@[simp] theorem links_setNext (list : ReadyList n) (place next : Option (Fin n)) (other : Fin n) :
    (list.setNext place next).links.get other =
      if place = some other then { list.links.get other with next := next } else list.links.get other := by
  cases place with
  | none => rfl
  | some place =>
    refine (links_setLinks list place other { list.links.get place with next := next }).trans ?_
    simp only [Option.some.injEq]
    split
    · next same => rw [same]
    · rfl

@[simp] theorem links_setPrev (list : ReadyList n) (place prev : Option (Fin n)) (other : Fin n) :
    (list.setPrev place prev).links.get other =
      if place = some other then { list.links.get other with prev := prev } else list.links.get other := by
  cases place with
  | none => rfl
  | some place =>
    refine (links_setLinks list place other { list.links.get place with prev := prev }).trans ?_
    simp only [Option.some.injEq]
    split
    · next same => rw [same]
    · rfl

@[simp] theorem head_setLinks (list : ReadyList n) (place : Fin n) (links : Links n) :
    (list.setLinks place links).head = list.head := rfl

@[simp] theorem head_setNext (list : ReadyList n) (place next : Option (Fin n)) :
    (list.setNext place next).head = if place = none then next else list.head := by
  cases place <;> rfl

@[simp] theorem head_setPrev (list : ReadyList n) (place prev : Option (Fin n)) :
    (list.setPrev place prev).head = list.head := by
  cases place <;> rfl

theorem head_link (list : ReadyList n) (place : Fin n) (gap : Links n) :
    (list.link place gap).head = if gap.prev = none then some place else list.head := by
  simp [link]

/-- Whatever the links are, a list has a head once a newcomer was put in. -/
theorem head_ne_none_of_insert {list after : ReadyList n} {rank : Fin n → Priority} {place : Fin n}
    (absent : list.contains place = false) (inserted : list.insert rank place = .ok after) : after.head ≠ none := by
  rw [insert, if_neg (by simp [absent])] at inserted
  split at inserted
  · next gap found =>
    cases inserted
    rw [head_link]
    split
    · simp
    · next behind =>
      intro headless
      rw [headless] at found
      have empty : gap = ⟨none, none⟩ := by cases n <;> simpa [gap?, eq_comm] using found
      exact behind (by rw [empty])
  · cases inserted

/-- The links of the settled places are those of a sequence, and the sequence holds settled places only. -/
structure Threads (list : ReadyList n) (settled : Fin n → Prop) (order : List (Fin n)) : Prop where
  nodup : order.Nodup
  head_eq : list.head = order.head?
  settled_of_mem : ∀ place ∈ order, settled place
  links_eq : ∀ place, settled place → list.links.get place = ⟨following order place, preceding order place⟩

/-- An id is in the list when it names a place that is. -/
theorem containsId_iff_contains (small : n ≤ 128) {list : ReadyList n} (id : TaskId) :
    list.containsId id = true ↔ ∃ place, list.contains place = true ∧ id = .ofIndex place := by
  rw [containsId]
  cases named : id.within n with
  | none =>
    have unnamed := (TaskId.within_eq_none_iff small).mp named
    simp [unnamed]
  | some place =>
    obtain rfl := (TaskId.within_eq_some_iff small).mp named
    constructor
    · exact fun contained => ⟨place, contained, rfl⟩
    · rintro ⟨other, contained, same⟩
      obtain rfl := TaskId.ofIndex_inj small same
      exact contained

/-- All links are those of the walk from the head. -/
def WellFormed (list : ReadyList n) : Prop := list.Threads (fun _ => True) list.toList

namespace Threads

variable {list : ReadyList n} {settled : Fin n → Prop} {order : List (Fin n)} {rank : Fin n → Priority}

theorem links_of_notMem (threads : list.Threads settled order) {place : Fin n} (isSettled : settled place)
    (absent : place ∉ order) : list.links.get place = {} := by
  rw [threads.links_eq place isSettled, following_of_notMem absent, preceding_of_notMem absent]

theorem head_ne (threads : list.Threads settled order) {place : Fin n} (absent : place ∉ order) :
    list.head ≠ some place := fun first => by
  rw [threads.head_eq] at first
  exact absent (List.mem_of_head? first)

theorem next_eq (threads : list.Threads settled order) {front back : List (Fin n)} {place : Fin n}
    (split : order = front ++ place :: back) : list.next place = back.head? := by
  subst split
  have fresh : place ∉ front := fun inside =>
    (List.nodup_append.mp threads.nodup).2.2 place inside place (List.mem_cons_self ..) rfl
  rw [next, threads.links_eq place (threads.settled_of_mem place (by simp)), following_append_cons fresh]

/-- A settled place is in the list exactly when it is in the sequence. -/
theorem contains_iff (threads : list.Threads settled order) {place : Fin n} (isSettled : settled place) :
    list.contains place = true ↔ place ∈ order := by
  constructor
  · intro contained
    by_contra absent
    simp [contains, threads.head_ne absent, threads.links_of_notMem isSettled absent, Links.isLinked] at contained
  · intro member
    obtain ⟨front, back, rfl⟩ := List.append_of_mem member
    cases front with
    | nil => simp [contains, threads.head_eq]
    | cons first rest =>
      have fresh : place ∉ back :=
        (List.nodup_cons.mp (List.nodup_append.mp threads.nodup).2.1).1
      have linked : (list.links.get place).prev = (first :: rest).getLast? := by
        rw [threads.links_eq place isSettled, preceding_append_cons fresh]
      simp [contains, Links.isLinked, linked, List.getLast?_cons]

/-- From behind a front part on, the links lead through the rest of the sequence. -/
theorem follow_eq (threads : list.Threads settled order) (front : List (Fin n)) {back : List (Fin n)} {steps : Nat}
    (split : order = front ++ back) (enough : back.length ≤ steps) : list.follow steps back.head? = back := by
  induction back generalizing front steps with
  | nil => cases steps <;> rfl
  | cons place rest ih =>
    cases steps with
    | zero => simp at enough
    | succ steps =>
      rw [List.head?_cons, follow, threads.next_eq split]
      exact congrArg (place :: ·) (ih (front ++ [place]) (by simpa using split) (by simpa using enough))

/-- The walk from the head is the sequence as soon as there are steps enough. -/
theorem walk_eq (threads : list.Threads settled order) {steps : Nat} (enough : order.length ≤ steps) :
    list.walk steps = order := by
  rw [walk, threads.head_eq]
  exact threads.follow_eq [] rfl enough

theorem length_le (threads : list.Threads settled order) : order.length ≤ n := by
  simpa using threads.nodup.length_le_card

theorem toList_eq (threads : list.Threads settled order) : list.toList = order :=
  threads.walk_eq threads.length_le

theorem wellFormed (threads : list.Threads (fun _ => True) order) : list.WellFormed := by
  rw [WellFormed, threads.toList_eq]
  exact threads

/-- Links that may be anything can be left out of account. -/
theorem mono (threads : list.Threads settled order) {fewer : Fin n → Prop}
    (isSettled : ∀ place, fewer place → settled place) (member : ∀ place ∈ order, fewer place) :
    list.Threads fewer order :=
  ⟨threads.nodup, threads.head_eq, member, fun place few => threads.links_eq place (isSettled place few)⟩

/-- A place outside the sequence is settled once its links are forgotten. -/
theorem isolate (threads : list.Threads settled order) {place : Fin n} (absent : place ∉ order) :
    (list.isolate place).Threads (fun other => other = place ∨ settled other) order where
  nodup := threads.nodup
  head_eq := threads.head_eq
  settled_of_mem other member := .inr (threads.settled_of_mem other member)
  links_eq other either := by
    rw [ReadyList.isolate, links_setLinks]
    by_cases same : place = other
    · subst same
      rw [if_pos rfl, following_of_notMem absent, preceding_of_notMem absent]
    · rw [if_neg same]
      exact threads.links_eq other (either.resolve_left (Ne.symm same))

/-- The search for a gap passes what the newcomer does not outrank, and stops in front of what it does. -/
theorem gap?_eq (threads : list.Threads settled order) {priority : Priority} (front : List (Fin n))
    {middle back : List (Fin n)} {steps : Nat} (split : order = front ++ (middle ++ back))
    (enough : (middle ++ back).length ≤ steps)
    (passed : ∀ other ∈ middle, priority.outranks (rank other) = false)
    (stopped : ∀ other, back.head? = some other → priority.outranks (rank other) = true) :
    list.gap? rank priority steps front.getLast? (middle ++ back).head? =
      some ⟨back.head?, (front ++ middle).getLast?⟩ := by
  induction middle generalizing front steps with
  | nil =>
    cases back with
    | nil => cases steps <;> simp [gap?]
    | cons first rest =>
      cases steps with
      | zero => simp at enough
      | succ steps => simp [gap?, stopped first rfl]
  | cons first rest ih =>
    cases steps with
    | zero => simp at enough
    | succ steps =>
      have notHigher : priority.outranks (rank first) = false := passed first (List.mem_cons_self ..)
      have next : list.next first = (rest ++ back).head? := threads.next_eq split
      have fewer : (rest ++ back).length ≤ steps := by simpa using enough
      have later := ih (front ++ [first]) (by simpa using split) fewer
        fun other inside => passed other (List.mem_cons_of_mem _ inside)
      rw [List.getLast?_concat, List.append_assoc, List.singleton_append] at later
      rw [List.cons_append, List.head?_cons, gap?, if_neg (by simp [notHigher]), next, later]

/-- Linking a place into the gap between two parts of the sequence. -/
theorem link {front back : List (Fin n)} (threads : list.Threads settled (front ++ back)) {place : Fin n}
    (isSettled : settled place) (absent : place ∉ front ++ back) :
    (list.link place ⟨back.head?, front.getLast?⟩).Threads settled (front ++ place :: back) where
  nodup := by
    rw [List.nodup_middle]
    exact List.nodup_cons.mpr ⟨absent, threads.nodup⟩
  head_eq := by
    simp only [ReadyList.link, head_setPrev, head_setNext, head_setLinks, List.getLast?_eq_none_iff]
    cases front with
    | nil => rfl
    | cons first rest => simpa using threads.head_eq
  settled_of_mem other member := by
    rcases List.mem_append.mp member with inside | inside
    · exact threads.settled_of_mem other (List.mem_append_left _ inside)
    · rcases List.mem_cons.mp inside with rfl | inside
      · exact isSettled
      · exact threads.settled_of_mem other (List.mem_append_right _ inside)
  links_eq other otherSettled := by
    have notLast : front.getLast? ≠ some place := fun last =>
      absent (List.mem_append_left _ (List.mem_of_getLast? last))
    have notFirst : back.head? ≠ some place := fun first =>
      absent (List.mem_append_right _ (List.mem_of_head? first))
    simp only [ReadyList.link, links_setPrev, links_setNext, links_setLinks,
      following_insert threads.nodup absent, preceding_insert threads.nodup absent]
    by_cases same : place = other
    · subst same
      simp [notLast, notFirst]
    · rw [if_neg same, if_neg (Ne.symm same), if_neg (Ne.symm same), threads.links_eq other otherSettled]
      split <;> split <;> rfl

/-- A settled newcomer always finds its gap. -/
theorem insert_eq_link (threads : list.Threads settled order) (rank : Fin n → Priority) {place : Fin n}
    (isSettled : settled place) (absent : place ∉ order) :
    ∃ front back, order = front ++ back ∧ enqueue rank place order = front ++ place :: back ∧
      list.insert rank place = .ok (list.link place ⟨back.head?, front.getLast?⟩) := by
  obtain ⟨front, back, rfl, queued, passed, stopped⟩ := enqueue_split rank absent
  have notContained : list.contains place = false :=
    Bool.eq_false_iff.mpr fun contained => absent ((threads.contains_iff isSettled).mp contained)
  have gap : list.gap? rank (rank place) n none list.head = some ⟨back.head?, front.getLast?⟩ := by
    have found := threads.gap?_eq [] rfl threads.length_le passed stopped
    rwa [List.nil_append, ← threads.head_eq] at found
  refine ⟨front, back, rfl, queued, ?_⟩
  rw [insert, if_neg (by simp [notContained]), gap]

theorem insert_newcomer (threads : list.Threads settled order) {place : Fin n} (isSettled : settled place)
    (absent : place ∉ order) :
    ∃ after, list.insert rank place = .ok after ∧ after.Threads settled (enqueue rank place order) := by
  obtain ⟨front, back, rfl, queued, inserted⟩ := threads.insert_eq_link rank isSettled absent
  refine ⟨_, inserted, ?_⟩
  rw [queued]
  exact threads.link isSettled absent

/-- The insertion of a settled newcomer touches no link of a place that is not settled. -/
theorem links_of_unsettled (threads : list.Threads settled order) {place other : Fin n} {after : ReadyList n}
    (isSettled : settled place) (absent : place ∉ order) (inserted : list.insert rank place = .ok after)
    (unsettled : ¬settled other) : after.links.get other = list.links.get other := by
  obtain ⟨front, back, rfl, -, linked⟩ := threads.insert_eq_link rank isSettled absent
  cases inserted.symm.trans linked
  have notLast : front.getLast? ≠ some other := fun last =>
    unsettled (threads.settled_of_mem other (List.mem_append_left _ (List.mem_of_getLast? last)))
  have notFirst : back.head? ≠ some other := fun first =>
    unsettled (threads.settled_of_mem other (List.mem_append_right _ (List.mem_of_head? first)))
  have apart : place ≠ other := fun same => unsettled (same ▸ isSettled)
  simp [ReadyList.link, notLast, notFirst, apart]

/-- Insertion puts a settled place where the policy wants it. -/
theorem insert (threads : list.Threads settled order) {place : Fin n} (isSettled : settled place) :
    ∃ after, list.insert rank place = .ok after ∧ after.Threads settled (enqueue rank place order) := by
  by_cases member : place ∈ order
  · refine ⟨list, ?_, ?_⟩
    · rw [ReadyList.insert, if_pos ((threads.contains_iff isSettled).mpr member)]
    · rwa [enqueue_of_mem member]
  · exact threads.insert_newcomer isSettled member

/-- Unlinking a place joins the parts of the sequence around it. -/
theorem unlink {front back : List (Fin n)} {place : Fin n}
    (threads : list.Threads settled (front ++ place :: back)) :
    (list.remove place).Threads settled (front ++ back) := by
  obtain ⟨absent, nodup⟩ := List.nodup_cons.mp (List.nodup_middle.mp threads.nodup)
  have isSettled : settled place := threads.settled_of_mem place (by simp)
  have contained : list.contains place = true := (threads.contains_iff isSettled).mpr (by simp)
  have links : list.links.get place = ⟨back.head?, front.getLast?⟩ := by
    rw [threads.links_eq place isSettled,
      following_append_cons fun inside => absent (List.mem_append_left _ inside),
      preceding_append_cons fun inside => absent (List.mem_append_right _ inside)]
  have notFirst : back.head? ≠ some place := fun first =>
    absent (List.mem_append_right _ (List.mem_of_head? first))
  rw [remove, if_pos contained, links]
  refine ⟨nodup, ?_, fun other member => ?_, fun other otherSettled => ?_⟩
  · simp only [ReadyList.isolate, head_setLinks, head_setPrev, head_setNext, List.getLast?_eq_none_iff]
    cases front with
    | nil => rfl
    | cons first rest => simpa using threads.head_eq
  · rcases List.mem_append.mp member with inside | inside
    · exact threads.settled_of_mem other (List.mem_append_left _ inside)
    · exact threads.settled_of_mem other (List.mem_append_right _ (List.mem_cons_of_mem _ inside))
  · simp only [ReadyList.isolate, links_setLinks, links_setPrev, links_setNext]
    by_cases same : place = other
    · subst same
      rw [if_pos rfl, following_of_notMem absent, preceding_of_notMem absent]
    · have next : following (front ++ back) other =
          if front.getLast? = some other then back.head? else following (front ++ place :: back) other := by
        rw [following_insert nodup absent, if_neg (Ne.symm same)]
        split
        · next last => exact following_getLast nodup last
        · rfl
      have prev : preceding (front ++ back) other =
          if back.head? = some other then front.getLast? else preceding (front ++ place :: back) other := by
        rw [preceding_insert nodup absent, if_neg (Ne.symm same)]
        split
        · next first =>
          obtain ⟨rest, rfl⟩ := List.head?_eq_some_iff.mp first
          exact preceding_append_cons (List.nodup_cons.mp (List.nodup_append.mp nodup).2.1).1
        · rfl
      rw [if_neg same, next, prev, threads.links_eq other otherSettled]
      split <;> split <;> rfl

/-- Removal takes a settled place out of the sequence. -/
theorem remove (threads : list.Threads settled order) {place : Fin n} (isSettled : settled place) :
    (list.remove place).Threads settled (order.erase place) := by
  by_cases member : place ∈ order
  · obtain ⟨front, back, rfl⟩ := List.append_of_mem member
    have fresh : place ∉ front := fun inside =>
      (List.nodup_append.mp threads.nodup).2.2 place inside place (List.mem_cons_self ..) rfl
    rw [List.erase_append_right _ fresh, List.erase_cons_head]
    exact threads.unlink
  · have notContained : ¬list.contains place = true := fun contained =>
      member ((threads.contains_iff isSettled).mp contained)
    rw [ReadyList.remove, if_neg notContained, List.erase_of_not_mem member]
    exact threads

end Threads

/-- Where every place is settled, the sequence determines the list. -/
theorem eq_of_threads {a b : ReadyList n} {order : List (Fin n)} (left : a.Threads (fun _ => True) order)
    (right : b.Threads (fun _ => True) order) : a = b := by
  obtain ⟨headA, linksA⟩ := a
  obtain ⟨headB, linksB⟩ := b
  have headEq : headA = headB := left.head_eq.trans right.head_eq.symm
  have linksEq : linksA = linksB := Vector.ext fun index inside =>
    (left.links_eq ⟨index, inside⟩ trivial).trans (right.links_eq ⟨index, inside⟩ trivial).symm
  rw [headEq, linksEq]

/-- Without a head there is no sequence, whatever the links are. -/
theorem threads_clear (list : ReadyList n) : list.clear.Threads (fun _ => False) [] :=
  ⟨List.nodup_nil, rfl, fun _ member => absurd member List.not_mem_nil, fun _ impossible => impossible.elim⟩

theorem threads_empty : (empty : ReadyList n).Threads (fun _ => True) [] where
  nodup := List.nodup_nil
  head_eq := rfl
  settled_of_mem _ _ := trivial
  links_eq place _ := by
    change (Vector.replicate n ({} : Links n))[place.val] = _
    rw [Vector.getElem_replicate]
    rfl

namespace WellFormed

variable {list : ReadyList n} {rank : Fin n → Priority}

theorem empty : (empty : ReadyList n).WellFormed := threads_empty.wellFormed

theorem nodup (formed : list.WellFormed) : list.toList.Nodup := Threads.nodup formed

theorem head_eq (formed : list.WellFormed) : list.head = list.toList.head? := Threads.head_eq formed

theorem contains_iff (formed : list.WellFormed) {place : Fin n} :
    list.contains place = true ↔ place ∈ list.toList := Threads.contains_iff formed trivial

/-- Membership by id is membership of the place that the id names. -/
theorem containsId_iff (formed : list.WellFormed) (small : n ≤ 128) (id : TaskId) :
    list.containsId id = true ↔ ∃ place ∈ list.toList, id = .ofIndex place := by
  simp only [containsId_iff_contains small, formed.contains_iff]

theorem insert (formed : list.WellFormed) (rank : Fin n → Priority) (place : Fin n) :
    ∃ after, list.insert rank place = .ok after ∧ after.WellFormed ∧
      after.toList = enqueue rank place list.toList := by
  obtain ⟨after, inserted, threads⟩ := Threads.insert formed trivial
  exact ⟨after, inserted, threads.wellFormed, threads.toList_eq⟩

/-- A list that an insertion left has the newcomer where the policy wants it. -/
theorem of_insert (formed : list.WellFormed) {place : Fin n} {after : ReadyList n}
    (inserted : list.insert rank place = .ok after) :
    after.WellFormed ∧ after.toList = enqueue rank place list.toList := by
  obtain ⟨result, succeeded, facts⟩ := formed.insert rank place
  rw [inserted] at succeeded
  cases succeeded
  exact facts

theorem remove (formed : list.WellFormed) (place : Fin n) : (list.remove place).WellFormed :=
  (Threads.remove formed trivial).wellFormed

theorem toList_remove (formed : list.WellFormed) (place : Fin n) :
    (list.remove place).toList = list.toList.erase place :=
  (Threads.remove formed trivial).toList_eq

end WellFormed

end CoopKernel.ReadyList
