import Mathlib.Data.List.DropRight
import CoopKernel.Proofs.Mail.Traffic
import CoopKernel.Proofs.Scheduling.Walk

/-! # Mail between two tasks is delivered once and in order

For a sender and a receiver, three sequences of messages belong to a run: those that the receiver's
mailbox accepted from the sender, those that the receiver has received from the sender, and those still
buffered. Since the receiver was last reset, the first is the second followed by the third
(`Run.delivered_in_order`), whatever else goes through the mailbox in between. `Mailed.exchange` is the
step: traffic moves a message of the sender at most at one end, since a selective receive takes the
oldest entry of the sender that it finds.
-/

namespace CoopKernel

variable {width : Width} {M S : Type} {n : Nat}

/-- The messages of one sender among some entries. -/
def messagesFrom (sender : TaskId) (entries : List (Entry width)) : List (Message width) :=
  (entries.filter fun entry => entry.sender = sender).map Entry.message

namespace Traffic

def arrivalFrom? (sender : TaskId) : Traffic width → Option (Message width)
  | .arrival entry => if entry.sender = sender then some entry.message else none
  | _ => none

def departureFrom? (sender : TaskId) : Traffic width → Option (Message width)
  | .departure entry => if entry.sender = sender then some entry.message else none
  | _ => none

def arrival? : Traffic width → Option (Entry width)
  | .arrival entry => some entry
  | _ => none

/-- Whether the mailbox is emptied. -/
def isReset : Traffic width → Bool
  | .emptied => true
  | _ => false

end Traffic

section Messages

variable {sender : TaskId} {entry : Entry width} {entries : List (Entry width)}

theorem messagesFrom_append (sender : TaskId) (front back : List (Entry width)) :
    messagesFrom sender (front ++ back) = messagesFrom sender front ++ messagesFrom sender back := by
  rw [messagesFrom, List.filter_append, List.map_append, messagesFrom, messagesFrom]

theorem messagesFrom_cons (sender : TaskId) (entry : Entry width) (entries : List (Entry width)) :
    messagesFrom sender (entry :: entries) =
      (if entry.sender = sender then some entry.message else none).toList ++ messagesFrom sender entries := by
  by_cases same : entry.sender = sender <;> simp [messagesFrom, same]

/-- The first entry from a wanted sender is the first one from its own sender. -/
theorem messagesFrom_eraseIdx {wanted : TaskMask} {position : Nat} (sender : TaskId)
    (found : entries.findIdx? (fun entry => wanted.contains entry.sender) = some position)
    (entryEq : entries[position]? = some entry) :
    messagesFrom sender entries =
      (if entry.sender = sender then some entry.message else none).toList ++
        messagesFrom sender (entries.eraseIdx position) := by
  have isWanted : wanted.contains entry.sender = true := by
    obtain ⟨inside, holds, -⟩ := List.findIdx?_eq_some_iff_getElem.mp found
    rw [List.getElem?_eq_getElem inside, Option.some.injEq] at entryEq
    rwa [entryEq] at holds
  induction entries generalizing position with
  | nil => cases found
  | cons first rest ih =>
    rw [List.findIdx?_cons] at found
    split at found
    · cases found
      cases entryEq
      rw [messagesFrom_cons]
      rfl
    · next unwanted =>
      obtain ⟨later, foundLater, rfl⟩ := Option.map_eq_some_iff.mp found
      rw [List.getElem?_cons_succ] at entryEq
      rw [messagesFrom_cons, ih foundLater entryEq, List.eraseIdx_cons_succ, messagesFrom_cons]
      by_cases same : entry.sender = sender
      · -- the entry passed over is from an unwanted sender, so not from this one
        have apart : first.sender ≠ sender := by
          rintro rfl
          rw [same] at isWanted
          exact unwanted isWanted
        simp [apart]
      · simp [same]

end Messages

namespace Kernel

variable {kernel after : Kernel width M S n} {place : Fin n} {traffic : Traffic width}

/-- A call empties a mailbox when it starts the task, alone or with all the others. -/
theorem isReset_traffic {call : Call width} {result : Answer width n} :
    (kernel.traffic place call result).isReset = true ↔
      call = .init ∨ ∃ id : TaskId, call = .restart id ∧ id.within n = some place := by
  unfold traffic
  split
  · simp [Traffic.isReset]
  · split <;> simp [Traffic.isReset, *]
  · split
    · split <;> simp [Traffic.isReset]
    · simp [Traffic.isReset]
  · split <;> simp [Traffic.isReset]
  · next notInit notRestart _ _ =>
    simp only [Traffic.isReset, Bool.false_eq_true, false_iff, not_or, not_exists, not_and]
    exact ⟨notInit, fun id same => absurd same (notRestart id)⟩

theorem Mailed.mail_of_reset (mailed : Mailed kernel place after traffic) (reset : traffic.isReset = true) :
    after.mail place = [] := by
  cases mailed with
  | emptied mailEq => exact mailEq
  | _ => cases reset

/-- Without a reset, what departs and what stays are what was there and what arrives. -/
theorem Mailed.exchange (mailed : Mailed kernel place after traffic) (kept : traffic.isReset = false)
    (sender : TaskId) :
    (traffic.departureFrom? sender).toList ++ messagesFrom sender (after.mail place) =
      messagesFrom sender (kernel.mail place) ++ (traffic.arrivalFrom? sender).toList := by
  cases mailed with
  | emptied => cases kept
  | @arrival entry _ mailEq _ =>
    rw [mailEq, messagesFrom_append, messagesFrom_cons]
    simp [Traffic.departureFrom?, Traffic.arrivalFrom?, messagesFrom]
  | departure _ found entryEq mailEq =>
    rw [mailEq, messagesFrom_eraseIdx sender found entryEq]
    simp [Traffic.departureFrom?, Traffic.arrivalFrom?]
  | quiet _ mailEq => simp [mailEq, Traffic.departureFrom?, Traffic.arrivalFrom?]
  | ready mailEq _ => simp [mailEq, Traffic.departureFrom?, Traffic.arrivalFrom?]
  | rests mailEq _ => simp [mailEq, Traffic.departureFrom?, Traffic.arrivalFrom?]

theorem Booted.mail_eq [Machine M S] (booted : kernel.Booted) (place : Fin n) : kernel.mail place = [] := by
  obtain ⟨_, _, _, _, _, _, began⟩ := booted
  exact (init_mails (init_sections began) began).mail_of_reset rfl

end Kernel

section Histories

variable [Machine M S]

namespace Moment

/-- The message of a sender that a receiver's mailbox accepted, by a send to the receiver or to everyone. -/
def accepted? (sender receiver : Fin n) (moment : Moment width M S n) : Option (Message width) :=
  (moment.traffic receiver).arrivalFrom? (.ofIndex sender)

def received? (sender receiver : Fin n) (moment : Moment width M S n) : Option (Message width) :=
  (moment.traffic receiver).departureFrom? (.ofIndex sender)

/-- Whether a task was started, alone or with all the others. -/
def resets (place : Fin n) (moment : Moment width M S n) : Bool := (moment.traffic place).isReset

end Moment

/-- The part of a history that comes after the last reset of a task. -/
def sinceReset (place : Fin n) (history : List (Moment width M S n)) : List (Moment width M S n) :=
  history.rtakeWhile fun moment => !moment.resets place

theorem filterMap_concat {α β : Type} (select : α → Option β) (items : List α) (item : α) :
    (items ++ [item]).filterMap select = items.filterMap select ++ (select item).toList := by
  rw [List.filterMap_append, List.filterMap_cons]
  cases select item <;> rfl

theorem sinceReset_concat (place : Fin n) (history : List (Moment width M S n)) (moment : Moment width M S n) :
    sinceReset place (history ++ [moment]) =
      if moment.resets place then [] else sinceReset place history ++ [moment] := by
  rw [sinceReset, List.rtakeWhile_concat, sinceReset]
  cases moment.resets place <;> rfl

namespace Run

variable {start kernel : Kernel width M S n} {history : List (Moment width M S n)}

/-- From a booted kernel on, every message that a mailbox accepted was received once and in order, or is still
buffered. -/
theorem delivered_in_order (booted : start.Booted) (run : Run start history kernel) (sender receiver : Fin n) :
    (sinceReset receiver history).filterMap (Moment.received? sender receiver) ++
        messagesFrom (.ofIndex sender) (kernel.mail receiver) =
      (sinceReset receiver history).filterMap (Moment.accepted? sender receiver) := by
  induction run with
  | start =>
    rw [booted.mail_eq]
    rfl
  | @step history moment earlier came ih =>
    have orderly := earlier.orderly booted.orderly
    obtain ⟨middle, mailed, same⟩ := Moment.mails came orderly.bootable orderly.formed receiver
    rw [sinceReset_concat, Kernel.mail_of_core same]
    split
    · next reset =>
      rw [mailed.mail_of_reset reset]
      rfl
    · next kept =>
      have exchange := mailed.exchange (Bool.eq_false_iff.mpr kept) (.ofIndex sender)
      generalize sinceReset receiver history = recent at ih ⊢
      calc
        (recent ++ [moment]).filterMap (Moment.received? sender receiver) ++
              messagesFrom (.ofIndex sender) (middle.mail receiver)
            = recent.filterMap (Moment.received? sender receiver) ++ ((moment.received? sender receiver).toList ++
              messagesFrom (.ofIndex sender) (middle.mail receiver)) := by
          rw [filterMap_concat, List.append_assoc]
        _ = recent.filterMap (Moment.received? sender receiver) ++
              (messagesFrom (.ofIndex sender) (moment.before.mail receiver) ++
                (moment.accepted? sender receiver).toList) :=
          congrArg (recent.filterMap (Moment.received? sender receiver) ++ ·) exchange
        _ = recent.filterMap (Moment.accepted? sender receiver) ++ (moment.accepted? sender receiver).toList := by
          rw [← List.append_assoc, ih]
        _ = (recent ++ [moment]).filterMap (Moment.accepted? sender receiver) := by rw [filterMap_concat]

/-- The interrupt task of the demo sends to one of the equals before that is restarted, and twice after; in between
the timer sends to everyone, and in the end the first of the two messages is received. -/
theorem delivered_in_order_demo : ∃ history kernel, Run Demo.started history kernel ∧
    (sinceReset 2 history).filterMap (Moment.accepted? 0 2) = [5, 6] ∧
    (sinceReset 2 history).filterMap (Moment.received? 0 2) ++ messagesFrom (.ofIndex 0) (kernel.mail 2) =
      (sinceReset 2 history).filterMap (Moment.accepted? 0 2) ∧
    (kernel.mail 2).map Entry.message = [9, 6] := by
  have computed : (replay? Demo.started [.call (.send (.ofIndex 2) 4), .call (.restart (.ofIndex 2)),
      .call (.send (.ofIndex 2) 5), .call .exit, .call (.send .everyone 9), .outside HostMachine.raise,
      .call .schedule, .call (.send (.ofIndex 2) 6), .outside HostMachine.acknowledge, .call .exit,
      .call (.wait .full), .call .yield, .call (.wait (.ofPlace 0)), .call .yield, .call .receive]).any (fun final =>
        decide ((sinceReset 2 final.1).filterMap (Moment.accepted? 0 2) = [5, 6] ∧
          (final.2.mail 2).map Entry.message = [9, 6])) = true := by
    decide +kernel
  obtain ⟨history, kernel, run, facts⟩ := Run.of_replay? computed
  obtain ⟨accepted, buffered⟩ := of_decide_eq_true facts
  exact ⟨history, kernel, run, accepted, delivered_in_order Demo.booted_started run 0 2, buffered⟩

end Run

end Histories

end CoopKernel
