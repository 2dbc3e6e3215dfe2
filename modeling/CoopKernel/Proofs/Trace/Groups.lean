import Mathlib.Algebra.Ring.Nat
import Mathlib.Data.List.SplitBy
import CoopKernel.Trace.Ring

/-! # Events in groups

A sequence of events told briefly: each maximal run of equal events as one group, with the event and its
length, or as several groups if it is longer than a record can count. `groups` says this of a whole
sequence; `Grows` is what one more event does to the groups, and `grows_groups` joins the two. Told in full
again the groups are the sequence (`flatMap_events_groups`).
-/

namespace CoopKernel.Trace

variable {α : Type}

/-- Equal events in a row. -/
structure Group (α : Type) where
  line : UInt16
  payload : α
  length : Nat
deriving DecidableEq, Repr

def Group.events (group : Group α) : List (UInt16 × α) := List.replicate group.length (group.line, group.payload)

def Record.group (record : Record α) : Group α := ⟨record.line, record.payload, record.count.toNat⟩

/-- The greatest length that a record can count. -/
def longest : Nat := 2 ^ 32 - 1

/-- The groups of a run of equal events: after every `longest` events, if more follow, another one begins. -/
def cut : List (UInt16 × α) → List (Group α)
  | [] => []
  | (line, payload) :: rest =>
      List.replicate (rest.length / longest) ⟨line, payload, longest⟩ ++ [⟨line, payload, rest.length % longest + 1⟩]

/-- The groups of a sequence: its maximal runs of equal events, cut. -/
def groups [DecidableEq α] (events : List (UInt16 × α)) : List (Group α) := (events.splitBy (· == ·)).flatMap cut

/-- What one more event does to groups: it lengthens the last one if that is of such events and can still grow, and
otherwise begins another. -/
inductive Grows (line : UInt16) (payload : α) : List (Group α) → List (Group α) → Prop
  | lengthens {front : List (Group α)} {length : Nat} (room : length < longest) :
      Grows line payload (front ++ [⟨line, payload, length⟩]) (front ++ [⟨line, payload, length + 1⟩])
  | begins {sofar : List (Group α)} (separate : ∀ last, sofar.getLast? = some last →
      ¬(last.line = line ∧ last.payload = payload ∧ last.length < longest)) :
      Grows line payload sofar (sofar ++ [⟨line, payload, 1⟩])

/-- Groups that grew by an event tell one more event. -/
theorem Grows.flatMap_events {line : UInt16} {payload : α} {before after : List (Group α)}
    (grows : Grows line payload before after) :
    after.flatMap Group.events = before.flatMap Group.events ++ [(line, payload)] := by
  cases grows with
  | lengthens room => simp [Group.events, List.replicate_succ']
  | begins separate => simp [Group.events]

/-- A group that began has an event. -/
theorem Grows.length_pos {line : UInt16} {payload : α} {before after : List (Group α)}
    (grows : Grows line payload before after) (occupied : ∀ group ∈ before, 0 < group.length) :
    ∀ group ∈ after, 0 < group.length := by
  intro group member
  cases grows with
  | lengthens room =>
    rcases List.mem_append.mp member with early | last
    · exact occupied group (List.mem_append_left _ early)
    · rw [List.mem_singleton.mp last]
      exact Nat.succ_pos _
  | begins separate =>
    rcases List.mem_append.mp member with early | last
    · exact occupied group early
    · rw [List.mem_singleton.mp last]
      exact Nat.one_pos

theorem cut_replicate (line : UInt16) (payload : α) (more : Nat) :
    cut (List.replicate (more + 1) (line, payload)) =
      List.replicate (more / longest) ⟨line, payload, longest⟩ ++ [⟨line, payload, more % longest + 1⟩] := by
  rw [List.replicate_succ, cut, List.length_replicate]

/-- One more event of a run lengthens its last group, or begins another behind a full one. -/
theorem grows_cut (line : UInt16) (payload : α) (front : List (Group α)) (more : Nat) :
    Grows line payload (front ++ cut (List.replicate (more + 1) (line, payload)))
      (front ++ cut (List.replicate (more + 1 + 1) (line, payload))) := by
  rw [cut_replicate, cut_replicate, ← List.append_assoc, ← List.append_assoc]
  by_cases full : more % longest + 1 = longest
  · obtain ⟨quotient, rest⟩ : (more + 1) / longest = more / longest + 1 ∧ (more + 1) % longest = 0 := by
      unfold longest at full ⊢
      omega
    rw [quotient, rest, List.replicate_succ', full, ← List.append_assoc]
    refine .begins fun last isLast => ?_
    rw [List.getLast?_concat] at isLast
    cases isLast
    exact fun grows => Nat.lt_irrefl _ grows.2.2
  · have room : more % longest + 1 < longest :=
      Nat.lt_of_le_of_ne (Nat.mod_lt more (by decide)) full
    obtain ⟨quotient, rest⟩ : (more + 1) / longest = more / longest ∧ (more + 1) % longest = more % longest + 1 := by
      unfold longest at room ⊢
      omega
    rw [quotient, rest]
    exact .lengthens room

/-- A sequence ends with a run of equal events, unless it is empty. -/
theorem exists_last_run (events : List (UInt16 × α)) : events = [] ∨ ∃ front event more,
    events = front ++ List.replicate (more + 1) event ∧ front.getLast? ≠ some event := by
  induction events using List.reverseRecOn with
  | nil => exact .inl rfl
  | append_singleton events last ih =>
    right
    by_cases same : events.getLast? = some last
    · rcases ih with rfl | ⟨front, event, more, rfl, apart⟩
      · cases same
      · rw [List.replicate_succ', ← List.append_assoc, List.getLast?_concat] at same
        cases same
        refine ⟨front, last, more + 1, ?_, apart⟩
        rw [List.append_assoc, ← List.replicate_succ']
    · exact ⟨events, last, 0, rfl, same⟩

variable [DecidableEq α]

/-- The groups of a sequence that ends with a run are those in front of the run, and the run's own. -/
theorem groups_append_run {front : List (UInt16 × α)} {event : UInt16 × α} (apart : front.getLast? ≠ some event)
    (more : Nat) : groups (front ++ List.replicate (more + 1) event) =
      groups front ++ cut (List.replicate (more + 1) event) := by
  have differs (last : UInt16 × α) (isLast : last ∈ front.getLast?) (first : UInt16 × α)
      (isFirst : first ∈ (List.replicate (more + 1) event).head?) : (last == first) = false := by
    rw [List.replicate_succ, List.head?_cons, Option.mem_some_iff] at isFirst
    rw [← isFirst]
    exact beq_false_of_ne fun same => apart (same ▸ isLast)
  have alike : (List.replicate (more + 1) event).IsChain fun first second => (first == second) = true :=
    List.isChain_replicate_of_rel _ (beq_self_eq_true event)
  rw [groups, List.splitBy_append differs, List.splitBy_of_isChain (by simp) alike, List.flatMap_append, groups,
    List.flatMap_singleton]

/-- The last group is of the last event. -/
theorem getLast?_groups {events : List (UInt16 × α)} {last : Group α} (isLast : (groups events).getLast? = some last) :
    events.getLast? = some (last.line, last.payload) := by
  rcases exists_last_run events with rfl | ⟨front, ⟨line, payload⟩, more, rfl, apart⟩
  · cases isLast
  · rw [groups_append_run apart, cut_replicate, ← List.append_assoc, List.getLast?_concat] at isLast
    cases isLast
    rw [List.replicate_succ', ← List.append_assoc, List.getLast?_concat]

/-- One more event makes the groups grow. -/
theorem grows_groups (events : List (UInt16 × α)) (line : UInt16) (payload : α) :
    Grows line payload (groups events) (groups (events ++ [(line, payload)])) := by
  by_cases same : events.getLast? = some (line, payload)
  · rcases exists_last_run events with rfl | ⟨front, event, more, rfl, apart⟩
    · cases same
    · rw [List.replicate_succ', ← List.append_assoc, List.getLast?_concat] at same
      cases same
      rw [List.append_assoc, ← List.replicate_succ', groups_append_run apart, groups_append_run apart]
      exact grows_cut line payload (groups front) more
  · have grown : groups (events ++ [(line, payload)]) = groups events ++ [⟨line, payload, 1⟩] := by
      have appended := groups_append_run same 0
      rwa [cut_replicate, Nat.zero_div, Nat.zero_mod, List.replicate_zero, List.nil_append] at appended
    rw [grown]
    refine .begins fun last isLast => ?_
    rintro ⟨rfl, rfl, -⟩
    exact same (getLast?_groups isLast)

theorem length_pos_of_mem_groups {events : List (UInt16 × α)} : ∀ group ∈ groups events, 0 < group.length := by
  induction events using List.reverseRecOn with
  | nil => exact fun group member => absurd member List.not_mem_nil
  | append_singleton events last ih => exact (grows_groups events last.1 last.2).length_pos ih

/-- Told in full the groups of a sequence are the sequence. -/
theorem flatMap_events_groups (events : List (UInt16 × α)) : (groups events).flatMap Group.events = events := by
  induction events using List.reverseRecOn with
  | nil => rfl
  | append_singleton events last ih => rw [(grows_groups events last.1 last.2).flatMap_events, ih]

end CoopKernel.Trace
