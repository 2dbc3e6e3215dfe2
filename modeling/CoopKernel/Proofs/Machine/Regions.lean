import Mathlib.Algebra.Ring.Nat
import CoopKernel.Proofs.Machine.Protection

/-! # Which addresses a protection region covers

A region covers a block whose size is a power of two and whose start is a multiple of that size: the size
field gives the exponent, less one, and the bits of the base word below it count for nothing. The kernel
rounds the size of a section down to such a power, its `span`, and writes the address as it is.
`covers_regionWords_iff` says what comes of it: the region never reaches past the section, but it begins
where the multiple of the span before the address is, and takes in what lies between (`Precedes`).
-/

namespace CoopKernel

namespace Section

def Contains (region : Section) (address : Nat) : Prop :=
  region.address.toNat ≤ address ∧ address < region.address.toNat + region.size.toNat

instance (region : Section) (address : Nat) : Decidable (region.Contains address) :=
  inferInstanceAs (Decidable (_ ∧ _))

/-- The greatest power of two that is not above the size of a section. -/
def span (region : Section) : Nat := 2 ^ Nat.log2 region.size.toNat

/-- Whether a section begins at a multiple of its span. -/
def IsAligned (region : Section) : Prop := region.span ∣ region.address.toNat

instance (region : Section) : Decidable region.IsAligned := inferInstanceAs (Decidable (_ ∣ _))

/-- The addresses before a section and from the last multiple of its span on. -/
def Precedes (region : Section) (address : Nat) : Prop :=
  region.address.toNat / region.span * region.span ≤ address ∧ address < region.address.toNat

theorem span_pos (region : Section) : 0 < region.span := Nat.two_pow_pos _

theorem span_le {region : Section} (occupied : region.size.toNat ≠ 0) : region.span ≤ region.size.toNat :=
  Nat.log2_self_le occupied

/-- Nothing precedes a section exactly if it is aligned. -/
theorem isAligned_iff {region : Section} : region.IsAligned ↔ ∀ address, ¬ region.Precedes address := by
  have split := Nat.div_add_mod' region.address.toNat region.span
  constructor
  · rintro aligned address ⟨after, before⟩
    rw [Nat.div_mul_cancel aligned] at after
    omega
  · intro none
    refine Nat.dvd_of_mod_eq_zero (Nat.eq_zero_of_not_pos fun positive => ?_)
    exact none _ ⟨Nat.le_refl _, by omega⟩

end Section

namespace CortexM

/-- How many bytes a region with a given attribute word covers. -/
def regionSpan (attributes : UInt32) : Nat := 2 ^ ((attributes >>> 1 &&& 0x1f).toNat + 1)

/-- The addresses that a region with given base and attribute words covers. It covers none unless it is enabled. -/
def Covers (words : UInt32 × UInt32) (address : Nat) : Prop :=
  let start := words.1.toNat / regionSpan words.2 * regionSpan words.2
  words.2 &&& 1 = 1 ∧ start ≤ address ∧ address < start + regionSpan words.2

instance (words : UInt32 × UInt32) (address : Nat) : Decidable (Covers words address) :=
  inferInstanceAs (Decidable (_ ∧ _))

theorem log2_lt (size : UInt32) : Nat.log2 size.toNat < 32 := by
  by_cases empty : size.toNat = 0
  · rw [empty]
    decide
  · exact (Nat.log2_lt empty).mpr size.toNat_lt

theorem toNat_sizeField (size : UInt32) : (sizeField size).toNat = Nat.log2 size.toNat - 1 := by
  have small := log2_lt size
  rw [sizeField, UInt32.toNat_ofNat', Nat.mod_eq_of_lt (by omega)]

/-- Five bits are enough for the size field of every size. -/
theorem exists_sizeField (size : UInt32) : ∃ field : Fin 32, sizeField size = UInt32.ofNat field.val := by
  have small := log2_lt size
  exact ⟨⟨Nat.log2 size.toNat - 1, by omega⟩, rfl⟩

/-- The size field keeps clear of all other fields, whatever the size. -/
theorem attributeWord_fields (access : Access) (size : UInt32) :
    attributeWord access size &&& 1 = 1 ∧
      (attributeWord access size >>> 1 &&& 0x1f).toNat = Nat.log2 size.toNat - 1 := by
  have every : ∀ field : Fin 32, ∀ access : Access,
      (access.bits ||| normalMemory ||| UInt32.ofNat field.val <<< 1 ||| 1) &&& 1 = 1 ∧
        (access.bits ||| normalMemory ||| UInt32.ofNat field.val <<< 1 ||| 1) >>> 1 &&& 0x1f =
          UInt32.ofNat field.val := by
    intro field access
    cases access <;> revert field <;> decide
  obtain ⟨field, fieldEq⟩ := exists_sizeField size
  rw [← toNat_sizeField, attributeWord, fieldEq]
  exact ⟨(every field access).1, congrArg UInt32.toNat (every field access).2⟩

theorem regionWords_ok {access : Access} {region : Section} {words : UInt32 × UInt32}
    (found : regionWords access region = .ok words) :
    words = (region.address, attributeWord access region.size) ∧ 32 ≤ region.size.toNat := by
  unfold regionWords at found
  split at found
  · next passed =>
    cases found
    exact ⟨rfl, UInt32.le_iff_toNat_le.mp passed.2⟩
  · cases found

/-- The region of a section covers a block as long as the section's span: what precedes the section, and then its
beginning. -/
theorem covers_regionWords_iff {access : Access} {region : Section} {words : UInt32 × UInt32}
    (found : regionWords access region = .ok words) {address : Nat} :
    Covers words address ↔
      region.address.toNat / region.span * region.span ≤ address ∧
        address < region.address.toNat / region.span * region.span + region.span := by
  obtain ⟨rfl, large⟩ := regionWords_ok found
  obtain ⟨enabled, fieldEq⟩ := attributeWord_fields access region.size
  have exponent : 1 ≤ Nat.log2 region.size.toNat := (Nat.le_log2 (by omega)).mpr (by omega)
  have spanEq : regionSpan (attributeWord access region.size) = region.span := by
    rw [regionSpan, fieldEq, Section.span, Nat.sub_add_cancel exponent]
  simp only [Covers, spanEq, enabled, true_and]

/-- A region covers no address behind its section, and every address that precedes it. -/
theorem covers_of_regionWords {access : Access} {region : Section} {words : UInt32 × UInt32}
    (found : regionWords access region = .ok words) :
    (∀ address, Covers words address → region.Precedes address ∨ region.Contains address) ∧
      ∀ address, region.Precedes address → Covers words address := by
  have fits : region.span ≤ region.size.toNat := by
    have large := (regionWords_ok found).2
    exact Section.span_le (by omega)
  have split := Nat.div_add_mod' region.address.toNat region.span
  have rest := Nat.mod_lt region.address.toNat region.span_pos
  constructor
  · intro address covered
    obtain ⟨after, before⟩ := (covers_regionWords_iff found).mp covered
    by_cases early : address < region.address.toNat
    · exact .inl ⟨after, early⟩
    · exact .inr ⟨by omega, by omega⟩
  · rintro address ⟨after, before⟩
    exact (covers_regionWords_iff found).mpr ⟨after, by omega⟩

def regionNumber : SectionKind → UInt32
  | .text => 0
  | .bss => 1
  | .stack => 2

/-- What a task is to do in a section: it runs its text, and reads and writes the others. -/
def sectionAccess : SectionKind → Access
  | .text => .code
  | .bss => .data
  | .stack => .data

/-- A task has a region for each of its sections, in the order of the region numbers. -/
theorem getElem?_taskWords {desc : TaskDesc} {words : List (UInt32 × UInt32)} (found : taskWords desc = .ok words)
    (kind : SectionKind) :
    ∃ own, words[(regionNumber kind).toNat]? = some own ∧
      regionWords (sectionAccess kind) (desc.region kind) = .ok own := by
  cases forall₂_of_mapM found with
  | cons text rest =>
    cases rest with
    | cons bss rest =>
      cases rest with
      | cons stack rest =>
        cases kind with
        | text => exact ⟨_, rfl, text⟩
        | bss => exact ⟨_, rfl, bss⟩
        | stack => exact ⟨_, rfl, stack⟩

namespace ProtectionUnit

/-- Whether all that the first three regions cover belongs to the sections of a task. -/
def Confines (unit : ProtectionUnit) (sections : SectionKind → Section) : Prop :=
  ∀ number < 3, ∀ address, Covers (unit.regions number) address → ∃ kind, (sections kind).Contains address

namespace Programmed

variable {unit before : ProtectionUnit} {desc : TaskDesc} {words : List (UInt32 × UInt32)}

theorem regionWords_eq (programmed : unit.Programmed before words) (found : taskWords desc = .ok words)
    (kind : SectionKind) :
    regionWords (sectionAccess kind) (desc.region kind) = .ok (unit.regions (regionNumber kind)) := by
  obtain ⟨own, listed, ownEq⟩ := getElem?_taskWords found kind
  rw [programmed.regions_eq, listed]
  exact ownEq

/-- The region of a section stays within the section exactly if the section is aligned. -/
theorem forall_contains_iff (programmed : unit.Programmed before words) (found : taskWords desc = .ok words)
    (kind : SectionKind) :
    (∀ address, Covers (unit.regions (regionNumber kind)) address → (desc.region kind).Contains address) ↔
      (desc.region kind).IsAligned := by
  obtain ⟨divided, preceding⟩ := covers_of_regionWords (programmed.regionWords_eq found kind)
  rw [Section.isAligned_iff]
  constructor
  · intro inside address precedes
    exact absurd (inside address (preceding address precedes)).1 (Nat.not_le.mpr precedes.2)
  · intro none address covered
    exact (divided address covered).resolve_left (none address)

/-- The regions of a task stay within its sections exactly if what precedes each section is the task's own as well. -/
theorem confines_iff (programmed : unit.Programmed before words) (found : taskWords desc = .ok words) :
    unit.Confines desc.region ↔
      ∀ kind address, (desc.region kind).Precedes address → ∃ other, (desc.region other).Contains address := by
  constructor
  · intro confines kind address precedes
    have early : regionNumber kind < 3 := by cases kind <;> decide
    exact confines _ early address ((covers_of_regionWords (programmed.regionWords_eq found kind)).2 address precedes)
  · intro owned number early address covered
    obtain ⟨kind, rfl⟩ : ∃ kind, regionNumber kind = number := by
      have small : number.toNat < 3 := UInt32.lt_iff_toNat_lt.mp early
      obtain zero | one | two : number = 0 ∨ number = 1 ∨ number = 2 := by
        simp only [← UInt32.toNat_inj]
        change number.toNat = 0 ∨ number.toNat = 1 ∨ number.toNat = 2
        omega
      · exact ⟨.text, zero.symm⟩
      · exact ⟨.bss, one.symm⟩
      · exact ⟨.stack, two.symm⟩
    rcases (covers_of_regionWords (programmed.regionWords_eq found kind)).1 address covered with precedes | contains
    · exact owned kind address precedes
    · exact ⟨kind, contains⟩

end Programmed

end ProtectionUnit

end CortexM

end CoopKernel
