import CoopKernel.Machine.CortexM.Basic
import CoopKernel.Proofs.Kernel.Stepping

/-! # The protection unit behind the register writes

The log of a machine says which registers were written, in order. What the protection unit holds after
these writes is a `ProtectionUnit`: its control word, the region that is selected, and for each region
its base and attribute words. `protect_ok` says what `protect` leaves in the unit, whatever it held
before: the regions of one task in their numbers, all others as they were, and the unit on.

A base word is written to the region that is selected. That of a task's region is aligned to 32 bytes, so
the bits by which it could name a region of its own are zero.
-/

namespace CoopKernel.CortexM

/-- What the protection unit holds. -/
structure ProtectionUnit where
  control : UInt32 := 0
  selected : UInt32 := 0
  /-- The base and attribute words of each region. -/
  regions : UInt32 → UInt32 × UInt32 := fun _ => (0, 0)

namespace ProtectionUnit

def setRegion (unit : ProtectionUnit) (number : UInt32) (words : UInt32 × UInt32) : ProtectionUnit :=
  { unit with regions := fun other => if other = number then words else unit.regions other }

/-- What a register write does to the unit. -/
def write (unit : ProtectionUnit) (written : RegisterWrite) : ProtectionUnit :=
  match written.register with
  | .mpuCtrl => { unit with control := written.value }
  | .mpuRnr => { unit with selected := written.value }
  | .mpuRbar => unit.setRegion unit.selected (written.value, (unit.regions unit.selected).2)
  | .mpuRasr => unit.setRegion unit.selected ((unit.regions unit.selected).1, written.value)
  | _ => unit

/-- A unit that is on and has in its regions given words, from region zero on; the regions behind them are as they were
in another unit. -/
structure Programmed (unit before : ProtectionUnit) (words : List (UInt32 × UInt32)) : Prop where
  control_eq : unit.control = protectionOn
  regions_eq : ∀ number, unit.regions number = words[number.toNat]?.getD (before.regions number)

/-- Programming as many regions again leaves nothing of the earlier ones. -/
theorem Programmed.renew {unit middle before : ProtectionUnit} {words earlier : List (UInt32 × UInt32)}
    (renewed : unit.Programmed middle words) (programmed : middle.Programmed before earlier)
    (same : earlier.length = words.length) : unit.Programmed before words := by
  refine ⟨renewed.control_eq, fun number => ?_⟩
  rw [renewed.regions_eq]
  by_cases inside : number.toNat < words.length
  · rw [List.getElem?_eq_getElem inside, Option.getD_some, Option.getD_some]
  · rw [List.getElem?_eq_none (by omega), Option.getD_none, Option.getD_none, programmed.regions_eq,
      List.getElem?_eq_none (by omega), Option.getD_none]

/-- Writing the words of one region selects it and sets it. -/
theorem foldl_write_region (unit : ProtectionUnit) (number base attributes : UInt32) :
    [⟨.mpuRnr, number⟩, ⟨.mpuRbar, base⟩, ⟨.mpuRasr, attributes⟩].foldl write unit =
      { unit with selected := number }.setRegion number (base, attributes) := by
  simp only [List.foldl_cons, List.foldl_nil, write, setRegion, ↓reduceIte]
  congr 1
  funext other
  split <;> rfl

/-- Writing the words of several regions sets these and leaves the others. -/
theorem foldl_regionWrites (unit : ProtectionUnit) (number : UInt32) (words : List (UInt32 × UInt32))
    (fits : number.toNat + words.length < UInt32.size) (other : UInt32) :
    ((regionWrites number words).foldl write unit).regions other =
      if number.toNat ≤ other.toNat then words[other.toNat - number.toNat]?.getD (unit.regions other)
      else unit.regions other := by
  induction words generalizing unit number with
  | nil => simp [regionWrites]
  | cons first rest ih =>
    have nextEq : (number + 1).toNat = number.toNat + 1 := by
      rw [UInt32.toNat_add, UInt32.toNat_one, Nat.mod_eq_of_lt]
      rw [List.length_cons] at fits
      exact Nat.lt_of_le_of_lt (by omega) fits
    have restFits : (number + 1).toNat + rest.length < UInt32.size := by
      rw [List.length_cons] at fits
      omega
    have split : (regionWrites number (first :: rest)).foldl write unit =
        (regionWrites (number + 1) rest).foldl write ({ unit with selected := number }.setRegion number first) := by
      rw [← foldl_write_region]
      rfl
    rw [split, ih _ (number + 1) restFits, nextEq, setRegion]
    dsimp only
    rcases Nat.lt_trichotomy number.toNat other.toNat with before | same | behind
    · have apart : other ≠ number := by
        rintro rfl
        omega
      obtain ⟨offset, offsetEq⟩ : ∃ offset, other.toNat - number.toNat = offset + 1 :=
        ⟨other.toNat - number.toNat - 1, by omega⟩
      rw [if_pos (by omega), if_neg apart, if_pos (by omega), offsetEq, List.getElem?_cons_succ]
      congr 2
      omega
    · rw [if_neg (by omega), if_pos (UInt32.toNat_inj.mp same.symm), if_pos (by omega), same, Nat.sub_self]
      rfl
    · have apart : other ≠ number := by
        rintro rfl
        omega
      rw [if_neg (by omega), if_neg apart, if_neg (by omega)]

/-- Writes with the unit off meanwhile: its control word is cleared before the first and set again after the last. -/
def offMeanwhile (writes : List RegisterWrite) : List RegisterWrite :=
  ⟨.mpuCtrl, 0⟩ :: writes ++ [⟨.mpuCtrl, protectionOn⟩]

/-- Programming leaves the regions that were meant, whatever the unit held before. -/
theorem programmed_foldl (unit : ProtectionUnit) {words : List (UInt32 × UInt32)} (few : words.length < UInt32.size) :
    ((offMeanwhile (regionWrites 0 words)).foldl write unit).Programmed unit words := by
  have regionsEq := foldl_regionWrites (unit.write ⟨.mpuCtrl, 0⟩) 0 words (by simpa using few)
  rw [offMeanwhile, List.cons_append, List.foldl_cons, List.foldl_append]
  exact ⟨rfl, fun number => (regionsEq number).trans (if_pos (Nat.zero_le _))⟩

end ProtectionUnit

/-- What the protection unit of a machine holds, if the machine's log is all that was written to it. -/
def protection (machine : CortexM) : ProtectionUnit := machine.history.foldl ProtectionUnit.write {}

theorem protection_writeAll (machine : CortexM) (writes : List RegisterWrite) :
    (machine.writeAll writes).protection = writes.foldl ProtectionUnit.write machine.protection := by
  simp [protection, history, writeAll]

theorem protection_write (machine : CortexM) (register : SystemRegister) (value : UInt32) :
    (machine.write register value).protection = machine.protection.write ⟨register, value⟩ :=
  machine.protection_writeAll [⟨register, value⟩]

/-- The words of a task's regions, unless a section cannot be one. -/
def taskWords (desc : TaskDesc) : Except Fault (List (UInt32 × UInt32)) :=
  (taskRegions desc).mapM fun region => regionWords region.1 region.2

theorem length_taskWords {desc : TaskDesc} {words : List (UInt32 × UInt32)} (found : taskWords desc = .ok words) :
    words.length = 3 :=
  (forall₂_of_mapM found).length_eq.symm

/-- Protection of a task comes back if its sections can be regions, with the writes that program these. -/
theorem protect_of_taskWords {desc : TaskDesc} {words : List (UInt32 × UInt32)} (found : taskWords desc = .ok words)
    (machine : CortexM) :
    protect desc machine = .ok () (machine.writeAll (ProtectionUnit.offMeanwhile (regionWrites 0 words))) := by
  have found' : (taskRegions desc).mapM (fun region => regionWords region.1 region.2) = .ok words := found
  unfold protect
  rw [found']
  simp [write, writeAll, ProtectionUnit.offMeanwhile]

/-- Protection of a task programs the unit with the regions of the task, and touches the log only. -/
theorem protect_ok {desc : TaskDesc} {before after : CortexM} (came : protect desc before = .ok () after) :
    (∃ words, taskWords desc = .ok words ∧ after.protection.Programmed before.protection words) ∧
      after = { before with log := after.log } := by
  cases found : taskWords desc with
  | error fault =>
    have found' : (taskRegions desc).mapM (fun region => regionWords region.1 region.2) = .error fault := found
    unfold protect at came
    rw [found'] at came
    cases came
  | ok words =>
    rw [protect_of_taskWords found] at came
    cases came
    have few : words.length = 3 := length_taskWords found
    refine ⟨⟨words, rfl, ?_⟩, rfl⟩
    rw [protection_writeAll]
    exact ProtectionUnit.programmed_foldl _ (by rw [few]; decide)

end CoopKernel.CortexM
