import Mathlib.Data.Nat.Count
import Mathlib.Data.Nat.ModEq
import CoopKernel.Proofs.Trace.Groups

/-! # A ring tells the end of the history

Groups take the slots of a ring in turn: group number `i` has slot `i % depth` until group `i + depth` takes
it over. `Holds` says that a ring holds the newest groups of a sequence, each in its slot, and has counted in
every slot how often it was taken. An event keeps this, whether it lengthens a group or begins another
(`Holds.record`), so it is kept along every sequence of events, and a ring tells the end of the sequence that
was recorded in it (`Ring.recounts_history`).
-/

namespace CoopKernel.Trace

/-- The slot of a group, by its number: groups take the slots in turn. -/
def slotOf {depth : Nat} (hasSlot : 0 < depth) (number : Nat) : Fin depth := ⟨number % depth, Nat.mod_lt _ hasSlot⟩

section Slots

variable {depth : Nat} (hasSlot : 0 < depth)

/-- No two of as many groups in a row as there are slots share one. -/
theorem slotOf_ne {earlier later : Nat} (before : earlier < later) (close : later < earlier + depth) :
    slotOf hasSlot earlier ≠ slotOf hasSlot later := by
  intro same
  have modEq : earlier % depth = later % depth := congrArg Fin.val same
  have divides : depth ∣ later - earlier := (Nat.modEq_iff_dvd' (Nat.le_of_lt before)).mp modEq
  have atLeast := Nat.le_of_dvd (by omega) divides
  omega

theorem slotOf_of_lt {number : Nat} (small : number < depth) : slotOf hasSlot number = ⟨number, small⟩ :=
  Fin.ext (Nat.mod_eq_of_lt small)

theorem slotOf_add_depth (number : Nat) : slotOf hasSlot (number + depth) = slotOf hasSlot number :=
  Fin.ext (Nat.add_mod_right number depth)

/-- The slot behind a group's is that of the next group. -/
theorem slotOf_succ_val (number : Nat) : (slotOf hasSlot (number + 1)).val =
    if (slotOf hasSlot number).val + 1 < depth then (slotOf hasSlot number).val + 1 else 0 := by
  have bound : number % depth < depth := Nat.mod_lt _ hasSlot
  change (number + 1) % depth = if number % depth + 1 < depth then number % depth + 1 else 0
  rw [← Nat.mod_add_mod]
  split
  · next inside => exact Nat.mod_eq_of_lt inside
  · next outside =>
    have full : number % depth + 1 = depth := by omega
    rw [full, Nat.mod_self]

end Slots

/-- A record that counts one more event, if it can. -/
theorem Record.group_of_counted {α : Type} {record : Record α} {line : UInt16} {payload : α} {length : Nat}
    (told : record.group = ⟨line, payload, length⟩) (room : length < longest) :
    ({ record with count := record.count + 1 } : Record α).group = ⟨line, payload, length + 1⟩ := by
  cases told
  have counted : (record.count + 1).toNat = record.count.toNat + 1 := by
    rw [UInt32.toNat_add]
    refine Nat.mod_eq_of_lt ?_
    change record.count.toNat + 1 < 2 ^ 32
    unfold longest at room
    omega
  rw [group, counted]

namespace Ring

variable {α : Type} {depth : Nat} {hasSlot : 0 < depth} {ring : Ring α depth} {groups front : List (Group α)}
  {line : UInt16} {payload : α} {length : Nat}

/-- A ring that holds the newest groups of a sequence in their slots. -/
structure Holds (hasSlot : 0 < depth) (ring : Ring α depth) (groups : List (Group α)) : Prop where
  fresh : groups = [] → ring.last = none
  last_eq : ∀ front newest, groups = front ++ [newest] → ring.last = some (slotOf hasSlot front.length).val
  kept : ∀ number group, groups[number]? = some group → groups.length ≤ number + depth →
    (ring.slots.get (slotOf hasSlot number)).group = group
  unused : ∀ slot : Fin depth, groups.length ≤ slot.val → (ring.slots.get slot).count = 0
  generation_eq : ∀ slot, (ring.slots.get slot).generation =
    UInt16.ofNat (Nat.count (fun number => slotOf hasSlot number = slot) groups.length)

theorem get_new (blank : α) (slot : Fin depth) : (new blank : Ring α depth).slots.get slot = ⟨0, 0, 0, blank⟩ :=
  Vector.getElem_replicate ..

theorem holds_new (hasSlot : 0 < depth) (blank : α) : Holds hasSlot (new blank) [] where
  fresh _ := rfl
  last_eq front newest impossible := by simp at impossible
  kept number group impossible := by simp at impossible
  unused slot _ := by rw [get_new]
  generation_eq slot := by
    rw [get_new]
    rfl

def put (ring : Ring α depth) (slot : Fin depth) (record : Record α) : Ring α depth :=
  { ring with slots := ring.slots.set slot.val record slot.isLt }

theorem get_put (slot other : Fin depth) (record : Record α) :
    (ring.put slot record).slots.get other = if slot = other then record else ring.slots.get other := by
  change (ring.slots.set slot.val record slot.isLt)[other.val] = if slot = other then record else ring.slots[other.val]
  simp only [Vector.getElem_set, Fin.val_inj]

namespace Holds

theorem nextIndex_eq (holds : Holds hasSlot ring groups) : ring.nextIndex = (slotOf hasSlot groups.length).val := by
  rcases List.eq_nil_or_concat groups with rfl | ⟨front, newest, rfl⟩
  · rw [nextIndex, holds.fresh rfl]
    exact (Nat.zero_mod depth).symm
  · rw [nextIndex, holds.last_eq front newest List.concat_eq_append, List.length_concat, slotOf_succ_val]

/-- The newest group is in its slot, as there is one. -/
theorem kept_newest {newest : Group α} (holds : Holds hasSlot ring (front ++ [newest])) :
    (ring.slots.get (slotOf hasSlot front.length)).group = newest := by
  refine holds.kept _ _ List.getElem?_concat_length ?_
  rw [List.length_append]
  exact Nat.add_le_add_left hasSlot _

theorem newest?_eq {newest : Group α} (holds : Holds hasSlot ring (front ++ [newest])) :
    ring.newest? = some (ring.slots.get (slotOf hasSlot front.length)) := by
  rw [newest?, holds.last_eq front newest rfl, Option.bind_some]
  exact Vector.getElem?_eq_getElem _

/-- The newest group is the last one, and a ring without one is fresh. -/
theorem newest?_group (holds : Holds hasSlot ring groups) : ring.newest?.map Record.group = groups.getLast? := by
  rcases List.eq_nil_or_concat' groups with rfl | ⟨front, newest, rfl⟩
  · rw [newest?, holds.fresh rfl]
    rfl
  · rw [holds.newest?_eq, Option.map_some, holds.kept_newest, List.getLast?_concat]

/-- An event lengthens the newest group exactly if that is of such events and a record can count one more. -/
theorem continues_iff [DecidableEq α] (holds : Holds hasSlot ring groups) : ring.continues line payload = true ↔
    ∃ last, groups.getLast? = some last ∧ last.line = line ∧ last.payload = payload ∧ last.length < longest := by
  rw [← holds.newest?_group, continues]
  cases ring.newest? with
  | none => simp
  | some record =>
    have room : record.count ≠ 0xffffffff ↔ record.count.toNat < longest := by
      have bound : record.count.toNat < 2 ^ 32 := record.count.toNat_lt_size
      rw [ne_eq, ← UInt32.toNat_inj]
      change ¬record.count.toNat = 2 ^ 32 - 1 ↔ record.count.toNat < 2 ^ 32 - 1
      omega
    simp only [decide_eq_true_eq, room]
    constructor
    · exact fun same => ⟨record.group, rfl, same⟩
    · rintro ⟨last, isLast, same⟩
      cases isLast
      exact same

/-- A ring of which one slot was written, that of the newest group. All other slots have what they had before. -/
theorem of_newest {after : Ring α depth} {newest : Group α} {record : Record α}
    (lastEq : after.last = some (slotOf hasSlot front.length).val)
    (slotEq : ∀ slot, after.slots.get slot = if slotOf hasSlot front.length = slot then record else ring.slots.get slot)
    (told : record.group = newest)
    (kept : ∀ number group, front[number]? = some group → front.length < number + depth →
      (ring.slots.get (slotOf hasSlot number)).group = group)
    (unused : ∀ slot : Fin depth, front.length < slot.val → (ring.slots.get slot).count = 0)
    (generationEq : ∀ slot, (after.slots.get slot).generation =
      UInt16.ofNat (Nat.count (fun number => slotOf hasSlot number = slot) (front.length + 1))) :
    Holds hasSlot after (front ++ [newest]) where
  fresh impossible := absurd impossible (by simp)
  last_eq other last same := by
    obtain ⟨rfl, -⟩ := List.append_inj' same rfl
    exact lastEq
  kept number group numbered close := by
    rw [List.length_append, List.length_singleton] at close
    rw [slotEq]
    by_cases isNewest : number = front.length
    · subst isNewest
      rw [List.getElem?_concat_length] at numbered
      rw [if_pos rfl, told, Option.some.inj numbered]
    · have inside : number < front.length := by
        have bound := (List.getElem?_eq_some_iff.mp numbered).1
        rw [List.length_append, List.length_singleton] at bound
        omega
      rw [if_neg (slotOf_ne hasSlot inside close).symm]
      rw [List.getElem?_append_left inside] at numbered
      exact kept number group numbered close
  unused slot beyond := by
    rw [List.length_append, List.length_singleton] at beyond
    have apart : slotOf hasSlot front.length ≠ slot := fun same => by
      have atMost : (slotOf hasSlot front.length).val ≤ front.length := Nat.mod_le ..
      rw [same] at atMost
      omega
    rw [slotEq, if_neg apart]
    exact unused slot beyond
  generation_eq slot := by
    rw [List.length_append, List.length_singleton]
    exact generationEq slot

/-- Counting one more event lengthens the newest group. -/
theorem extendRun (holds : Holds hasSlot ring (front ++ [⟨line, payload, length⟩])) (room : length < longest) :
    Holds hasSlot ring.extendRun (front ++ [⟨line, payload, length + 1⟩]) := by
  have isLast := holds.last_eq front _ rfl
  generalize slotIs : slotOf hasSlot front.length = newest at isLast
  have changed : ring.extendRun =
      ring.put newest { ring.slots.get newest with count := (ring.slots.get newest).count + 1 } := by
    rw [Ring.extendRun, isLast]
    dsimp only
    rw [changeSlot, dif_pos newest.isLt]
    rfl
  have slotEq (slot : Fin depth) : ring.extendRun.slots.get slot = if slotOf hasSlot front.length = slot then
      { ring.slots.get newest with count := (ring.slots.get newest).count + 1 } else ring.slots.get slot := by
    rw [changed, get_put, slotIs]
  have told : (ring.slots.get newest).group = ⟨line, payload, length⟩ := slotIs ▸ holds.kept_newest
  refine of_newest ?_ slotEq ?_ (fun number group numbered close => ?_) (fun slot beyond => ?_) fun slot => ?_
  · rw [changed, slotIs]
    exact isLast
  · exact Record.group_of_counted told room
  · have inside := (List.getElem?_eq_some_iff.mp numbered).1
    refine holds.kept number group ?_ ?_
    · rw [List.getElem?_append_left inside, numbered]
    · rwa [List.length_append]
  · refine holds.unused slot ?_
    rwa [List.length_append]
  · have counted := holds.generation_eq slot
    rw [List.length_append, List.length_singleton] at counted
    rw [← counted, slotEq]
    split
    · next same => rw [← same, slotIs]
    · rfl

/-- Another group takes the next slot. -/
theorem startRun (holds : Holds hasSlot ring groups) :
    Holds hasSlot (ring.startRun hasSlot line payload) (groups ++ [⟨line, payload, 1⟩]) := by
  generalize slotIs : slotOf hasSlot groups.length = newest
  have indexEq : ring.nextIndex = newest.val := slotIs ▸ holds.nextIndex_eq
  have changed : ring.startRun hasSlot line payload =
      { ring.put newest ⟨line, (ring.slots.get newest).generation + 1, 1, payload⟩ with last := some newest.val } := by
    simp only [Ring.startRun, indexEq]
    rfl
  have slotEq (slot : Fin depth) : (ring.startRun hasSlot line payload).slots.get slot =
      if slotOf hasSlot groups.length = slot then ⟨line, (ring.slots.get newest).generation + 1, 1, payload⟩
      else ring.slots.get slot := by
    rw [changed, slotIs]
    exact get_put ..
  refine of_newest ?_ slotEq rfl (fun number group numbered close => ?_) (fun slot beyond => ?_) fun slot => ?_
  · rw [changed, slotIs]
  · exact holds.kept number group numbered (Nat.le_of_lt close)
  · exact holds.unused slot (Nat.le_of_lt beyond)
  · have counted := holds.generation_eq slot
    rw [slotEq, Nat.count_succ]
    split
    · next same =>
      rw [← slotIs, same, counted, UInt16.ofNat_add]
      rfl
    · exact counted

/-- Recording an event makes the groups grow by it. -/
theorem record [DecidableEq α] {after : List (Group α)} (holds : Holds hasSlot ring groups)
    (grows : Grows line payload groups after) : Holds hasSlot (ring.record hasSlot line payload) after := by
  rw [Ring.record]
  cases grows with
  | lengthens room =>
    rw [if_pos (holds.continues_iff.mpr ⟨_, List.getLast?_concat, rfl, rfl, room⟩)]
    exact holds.extendRun room
  | begins separate =>
    rw [if_neg fun continues => ?_]
    · exact holds.startRun
    · obtain ⟨last, isLast, same⟩ := holds.continues_iff.mp continues
      exact separate last isLast same

/-- A ring tells its slots from the one behind the newest on. -/
theorem records_eq_filter (holds : Holds hasSlot ring groups) : ring.records =
    ((List.range depth).map fun offset => ring.slots.get (slotOf hasSlot (groups.length + offset))).filter
      fun record => record.count ≠ 0 := by
  have found (number : Nat) : ring.slots[number % depth]? = some (ring.slots.get (slotOf hasSlot number)) :=
    Vector.getElem?_eq_getElem (Nat.mod_lt _ hasSlot)
  rcases List.eq_nil_or_concat' groups with rfl | ⟨front, newest, rfl⟩
  · simp only [records, holds.fresh rfl, found, List.filterMap_eq_map', List.length_nil]
  · have startEq (offset : Nat) : ((slotOf hasSlot front.length).val + 1 + offset) % depth =
        ((front ++ [newest]).length + offset) % depth := by
      rw [List.length_append, List.length_singleton, Nat.add_assoc, Nat.add_assoc]
      exact Nat.mod_add_mod ..
    simp only [records, holds.last_eq front newest rfl, startEq, found, List.filterMap_eq_map']

/-- What a ring tells are the last groups, as many as there are slots. Slots that were never used come first, and show
nothing. -/
theorem records_group (holds : Holds hasSlot ring groups) (occupied : ∀ group ∈ groups, 0 < group.length) :
    ring.records.map Record.group = groups.drop (groups.length - depth) := by
  generalize droppedEq : groups.length - depth = dropped
  generalize toldEq : groups.length - dropped = told
  generalize spareEq : depth - told = spare
  have depthEq : depth = spare + told := by omega
  have turned : groups.length + spare = dropped + depth := by omega
  have unused (offset : Nat) (early : offset < spare) :
      (ring.slots.get (slotOf hasSlot (groups.length + offset))).count = 0 := by
    rw [slotOf_of_lt hasSlot (by omega : groups.length + offset < depth)]
    exact holds.unused _ (Nat.le_add_right ..)
  have kept (offset : Nat) (inside : offset < told) :
      (ring.slots.get (slotOf hasSlot (groups.length + (spare + offset)))).group = groups[dropped + offset] := by
    have numberEq : groups.length + (spare + offset) = dropped + offset + depth := by omega
    rw [numberEq, slotOf_add_depth]
    exact holds.kept _ _ (List.getElem?_eq_getElem _) (by omega)
  have rangeEq : List.range depth = List.range spare ++ (List.range told).map (spare + ·) :=
    (congrArg List.range depthEq).trans List.range_add
  rw [holds.records_eq_filter, rangeEq, List.map_append, List.filter_append, List.filter_eq_nil_iff.mpr ?_,
    List.nil_append, List.filter_eq_self.mpr ?_, List.map_map, List.map_map]
  · refine List.ext_getElem (by simp [toldEq]) fun offset inside _ => ?_
    rw [List.length_map, List.length_range] at inside
    rw [List.getElem_map, List.getElem_range, List.getElem_drop]
    exact kept offset inside
  · intro record member
    simp only [List.mem_map, List.mem_range, exists_exists_and_eq_and] at member
    obtain ⟨offset, inside, rfl⟩ := member
    have counted : 0 < (ring.slots.get (slotOf hasSlot (groups.length + (spare + offset)))).group.length := by
      rw [kept offset inside]
      exact occupied _ (List.getElem_mem _)
    refine decide_eq_true fun empty => ?_
    rw [Record.group, empty] at counted
    exact Nat.lt_irrefl 0 counted
  · intro record member
    simp only [List.mem_map, List.mem_range] at member
    obtain ⟨offset, early, rfl⟩ := member
    simp [unused offset early]

end Holds

def recordAll [DecidableEq α] (hasSlot : 0 < depth) (ring : Ring α depth) (events : List (UInt16 × α)) : Ring α depth :=
  events.foldl (fun ring event => ring.record hasSlot event.1 event.2) ring

variable [DecidableEq α]

/-- A ring that events were recorded in from the beginning holds the newest of their groups. -/
theorem holds_recordAll (hasSlot : 0 < depth) (blank : α) (events : List (UInt16 × α)) :
    Holds hasSlot ((new blank).recordAll hasSlot events) (Trace.groups events) := by
  induction events using List.reverseRecOn with
  | nil => exact holds_new hasSlot blank
  | append_singleton events last ih =>
    rw [recordAll, List.foldl_concat]
    exact ih.record (grows_groups events last.1 last.2)

/-- What a ring tells of the events that were recorded in it. -/
structure Recounts (hasSlot : 0 < depth) (ring : Ring α depth) (events : List (UInt16 × α)) : Prop where
  /-- The last groups, as many as there are slots, oldest first. -/
  records_eq : ring.records.map Record.group = (Trace.groups events).drop ((Trace.groups events).length - depth)
  newest_eq : ring.newest?.map Record.group = (Trace.groups events).getLast?
  last_eq_none_iff : ring.last = none ↔ events = []
  last_lt : ∀ last, ring.last = some last → last < depth
  /-- Groups are started in the slots in turn. -/
  last_eq : ∀ earlier newest, Trace.groups events = earlier ++ [newest] →
    ring.last = some (slotOf hasSlot earlier.length).val
  /-- Each slot counts the groups that were started in it, in the arithmetic of 16 bits. -/
  generation_eq : ∀ slot, (ring.slots.get slot).generation.toNat =
    Nat.count (fun number => slotOf hasSlot number = slot) (Trace.groups events).length % 2 ^ 16
  /-- Told in full, the records are the end of the sequence. -/
  told_suffix : (ring.records.flatMap fun record => record.group.events) <:+ events

theorem Holds.recounts {events : List (UInt16 × α)} (holds : Holds hasSlot ring (Trace.groups events)) :
    Recounts hasSlot ring events := by
  have told := holds.records_group length_pos_of_mem_groups
  constructor
  · exact told
  · exact holds.newest?_group
  · constructor
    · intro nothing
      rcases List.eq_nil_or_concat' (Trace.groups events) with empty | ⟨front, newest, split⟩
      · rw [← flatMap_events_groups events, empty, List.flatMap_nil]
      · cases nothing.symm.trans (holds.last_eq front newest split)
    · rintro rfl
      exact holds.fresh rfl
  · intro last isLast
    rcases List.eq_nil_or_concat' (Trace.groups events) with empty | ⟨front, newest, split⟩
    · cases (holds.fresh empty).symm.trans isLast
    · cases (holds.last_eq front newest split).symm.trans isLast
      exact (slotOf hasSlot front.length).isLt
  · exact holds.last_eq
  · intro slot
    rw [holds.generation_eq, UInt16.toNat_ofNat']
  · have suffix : (ring.records.map Record.group).flatMap Group.events <:+ (Trace.groups events).flatMap Group.events := by
      rw [told]
      exact (List.drop_suffix ..).flatMap Group.events
    rwa [List.flatMap_map, flatMap_events_groups] at suffix

/-- Whatever sequence of events is recorded in a new ring, the ring tells the end of its history in groups. -/
theorem recounts_history (hasSlot : 0 < depth) (blank : α) (events : List (UInt16 × α)) :
    Recounts hasSlot ((new blank).recordAll hasSlot events) events :=
  (holds_recordAll hasSlot blank events).recounts

/-- Three groups in a ring of two slots: the last one took the slot of the first, which three events had. -/
theorem recounts_history_demo : ∃ hasSlot : 0 < 2, ∃ ring : Ring Nat 2,
    ring = (new 0).recordAll hasSlot [(10, 1), (10, 1), (10, 1), (11, 1), (11, 2)] ∧
    ring.records = [⟨11, 1, 1, 1⟩, ⟨11, 2, 1, 2⟩] ∧
    Recounts hasSlot ring [(10, 1), (10, 1), (10, 1), (11, 1), (11, 2)] :=
  ⟨by decide, _, rfl, by decide +kernel, recounts_history (by decide) 0 _⟩

end Ring

end CoopKernel.Trace
