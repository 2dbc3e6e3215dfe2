import CoopKernel.Proofs.Machine.Regions

/-! # Regions that are exactly their sections

The build tools are expected to lay sections out as blocks (`Section.IsBlock`): the size is a power of two,
and the address is a multiple of it. `switchSpace_guards` says that a switch to such a task always comes
back, and what it leaves in the protection unit, whatever the unit held before: the regions of the task are
its sections, the code can be read and run, the data can be read and written, and nothing else is possible.
The unit is off from the first write to the last. An attribute word is put together from fields that have no
bit in common (`pairwise_attributeFields`), so each is read back as it was meant.
-/

namespace CoopKernel

/-- A section that a region can match: its size is a power of two, at least 32, and it begins at a multiple of it. -/
structure Section.IsBlock (region : Section) : Prop where
  power : ∃ exponent, region.size.toNat = 2 ^ exponent
  large : 32 ≤ region.size.toNat
  aligned : region.size.toNat ∣ region.address.toNat

namespace Section.IsBlock

variable {region : Section} (block : region.IsBlock)

include block

theorem span_eq : region.span = region.size.toNat := by
  obtain ⟨exponent, sizeEq⟩ := block.power
  rw [span, sizeEq, Nat.log2_two_pow]

theorem isAligned : region.IsAligned := by
  rw [IsAligned, block.span_eq]
  exact block.aligned

/-- A block begins at a multiple of 32. -/
theorem address_and : region.address &&& 0x1f = 0 := by
  have smaller : 2 ^ 5 ∣ region.size.toNat := by
    obtain ⟨exponent, sizeEq⟩ := block.power
    have large := block.large
    rw [sizeEq] at large ⊢
    exact Nat.pow_dvd_pow 2 ((Nat.pow_le_pow_iff_right (a := 2) (n := 5) (by decide)).mp large)
  rw [← UInt32.toNat_inj, UInt32.toNat_and]
  change region.address.toNat &&& (2 ^ 5 - 1) = 0
  rw [Nat.and_two_pow_sub_one_eq_mod]
  exact Nat.mod_eq_zero_of_dvd (Nat.dvd_trans smaller block.aligned)

end Section.IsBlock

namespace CortexM

/-! ## Attribute words -/

/-- The number in some bits of a word, from an offset on. -/
def fieldAt (word : UInt32) (offset width : Nat) : Nat := word.toNat / 2 ^ offset % 2 ^ width

/-- What the code of a task may do at the addresses of a region. -/
structure Rights where
  read : Bool
  write : Bool
  execute : Bool
deriving DecidableEq, Repr

/-- The rights that an attribute word gives to the code of a task. The permission is at bit 24; what can be read can be
run, unless bit 28 is set. -/
def userRights (attributes : UInt32) : Rights :=
  let permission := fieldAt attributes 24 3
  let read := [2, 3, 6, 7].contains permission
  { read, write := permission == 3, execute := read && fieldAt attributes 28 1 == 0 }

namespace Access

/-- What the code of a task is meant to do in a section. -/
def rights : Access → Rights
  | code => { read := true, write := false, execute := true }
  | data => { read := true, write := true, execute := false }

/-- The bit that forbids to run what a region holds. -/
def executeNever : Access → UInt32
  | code => 0
  | data => 1

/-- The permission: the code of a task may only read, or it may write as well. -/
def permission : Access → UInt32
  | code => 2
  | data => 3

end Access

/-- The fields of an attribute word, the highest first: execute-never, permission, two for the kind of the memory, size,
and the bit that turns the region on. -/
def attributeFields (access : Access) (size : UInt32) : List UInt32 :=
  [access.executeNever <<< 28, access.permission <<< 24, (1 : UInt32) <<< 19, (3 : UInt32) <<< 16,
    sizeField size <<< 1, 1]

/-- An attribute word is its fields, and these have no bit in common. -/
theorem pairwise_attributeFields (access : Access) (size : UInt32) :
    attributeWord access size = (attributeFields access size).foldl (· ||| ·) (0 : UInt32) ∧
      (attributeFields access size).Pairwise fun first second => first &&& second = 0 := by
  have every : ∀ field : Fin 32, ∀ access : Access,
      (access.bits ||| normalMemory ||| UInt32.ofNat field.val <<< 1 ||| (1 : UInt32)) =
        [access.executeNever <<< 28, access.permission <<< 24, (1 : UInt32) <<< 19, (3 : UInt32) <<< 16,
          UInt32.ofNat field.val <<< 1, 1].foldl (· ||| ·) (0 : UInt32) ∧
      [access.executeNever <<< 28, access.permission <<< 24, (1 : UInt32) <<< 19, (3 : UInt32) <<< 16,
        UInt32.ofNat field.val <<< 1, 1].Pairwise fun first second => first &&& second = 0 := by
    intro field access
    cases access <;> revert field <;> decide
  obtain ⟨field, fieldEq⟩ := exists_sizeField size
  rw [attributeWord, attributeFields, fieldEq]
  exact every field access

/-- Whatever the size, the word of a region gives the rights it is meant to give, in the whole region. -/
theorem userRights_attributeWord (access : Access) (size : UInt32) :
    userRights (attributeWord access size) = access.rights ∧ fieldAt (attributeWord access size) 8 8 = 0 := by
  have every : ∀ field : Fin 32, ∀ access : Access,
      userRights (access.bits ||| normalMemory ||| UInt32.ofNat field.val <<< 1 ||| 1) = access.rights ∧
        fieldAt (access.bits ||| normalMemory ||| UInt32.ofNat field.val <<< 1 ||| 1) 8 8 = 0 := by
    intro field access
    cases access <;> revert field <;> decide
  obtain ⟨field, fieldEq⟩ := exists_sizeField size
  rw [attributeWord, fieldEq]
  exact every field access

/-- The size field of at least 32 bytes is found by counting the zeros in front of the size. -/
theorem toNat_sizeField_clz {size : UInt32} (large : 32 ≤ size.toNat) :
    (sizeField size).toNat = 30 - size.toBitVec.clz.toNat := by
  have occupied : size.toBitVec ≠ 0#32 := by
    intro empty
    have zero : size.toNat = 0 := congrArg BitVec.toNat empty
    omega
  have below : size.toNat < 2 ^ (32 - size.toBitVec.clz.toNat) := BitVec.toNat_lt_two_pow_sub_clz
  have above : 2 ^ (32 - 1 - size.toBitVec.clz.toNat) ≤ size.toNat :=
    BitVec.two_pow_sub_clz_le_toNat_of_ne_zero (by decide) occupied
  have zeros : size.toBitVec.clz.toNat < 32 := by
    refine Nat.lt_of_not_le fun all => ?_
    rw [Nat.sub_eq_zero_of_le all] at below
    omega
  have logEq : Nat.log2 size.toNat = 31 - size.toBitVec.clz.toNat := by
    refine (Nat.log2_eq_iff (by omega)).mpr ⟨above, ?_⟩
    rwa [show 31 - size.toBitVec.clz.toNat + 1 = 32 - size.toBitVec.clz.toNat by omega]
  rw [toNat_sizeField, logEq]
  omega

/-! ## Regions of blocks -/

/-- The words of a region make it a section, with given rights for the code of a task. -/
structure Guards (words : UInt32 × UInt32) (region : Section) (rights : Rights) : Prop where
  covers_iff : ∀ address, Covers words address ↔ region.Contains address
  /-- No eighth of the region is left out. -/
  whole : fieldAt words.2 8 8 = 0
  /-- The base word goes to the region that is selected. -/
  unnamed : words.1 &&& 0x1f = 0
  rights_eq : userRights words.2 = rights

theorem regionWords_of_isBlock {region : Section} (block : region.IsBlock) (access : Access) :
    regionWords access region = .ok (region.address, attributeWord access region.size) :=
  if_pos ⟨block.address_and, UInt32.le_iff_toNat_le.mpr block.large⟩

theorem guards_of_regionWords {region : Section} (block : region.IsBlock) {access : Access} {words : UInt32 × UInt32}
    (found : regionWords access region = .ok words) : Guards words region access.rights := by
  obtain ⟨rfl, -⟩ := regionWords_ok found
  obtain ⟨rightsEq, whole⟩ := userRights_attributeWord access region.size
  refine ⟨fun address => ?_, whole, block.address_and, rightsEq⟩
  rw [covers_regionWords_iff found, Nat.div_mul_cancel block.isAligned, block.span_eq, Section.Contains]

/-- Blocks can be regions. -/
theorem exists_taskWords {desc : TaskDesc} (blocks : ∀ kind, (desc.region kind).IsBlock) :
    ∃ words, taskWords desc = .ok words := by
  have each : ∀ region ∈ taskRegions desc, ∃ words, regionWords region.1 region.2 = .ok words := by
    simp only [taskRegions, List.forall_mem_cons, List.not_mem_nil, false_implies, implies_true, and_true]
    exact ⟨⟨_, regionWords_of_isBlock (blocks .text) _⟩, ⟨_, regionWords_of_isBlock (blocks .bss) _⟩,
      ⟨_, regionWords_of_isBlock (blocks .stack) _⟩⟩
  obtain ⟨words, answered⟩ := exists_forall₂_iff.mpr each
  exact ⟨words, mapM_of_forall₂ answered⟩

namespace ProtectionUnit

/-- The unit is on, and the kernel has the default map beside the regions. -/
def IsOn (unit : ProtectionUnit) : Prop := fieldAt unit.control 0 1 = 1 ∧ fieldAt unit.control 2 1 = 1

/-- A unit that was programmed with blocks is on, and each block is guarded by its region. -/
theorem Programmed.guards {unit before : ProtectionUnit} {desc : TaskDesc} {words : List (UInt32 × UInt32)}
    (programmed : unit.Programmed before words) (found : taskWords desc = .ok words)
    (blocks : ∀ kind, (desc.region kind).IsBlock) :
    unit.IsOn ∧ ∀ kind, Guards (unit.regions (regionNumber kind)) (desc.region kind) (sectionAccess kind).rights := by
  constructor
  · rw [IsOn, programmed.control_eq]
    decide
  · exact fun kind => guards_of_regionWords (blocks kind) (programmed.regionWords_eq found kind)

end ProtectionUnit

namespace SystemRegister

def isRegional : SystemRegister → Bool
  | mpuRnr => true
  | mpuRbar => true
  | mpuRasr => true
  | _ => false

end SystemRegister

theorem isRegional_regionWrites (number : UInt32) (words : List (UInt32 × UInt32)) :
    ∀ written ∈ regionWrites number words, written.register.isRegional = true := by
  induction words generalizing number with
  | nil => exact List.forall_mem_nil _
  | cons first rest ih =>
    rw [regionWrites, List.forall_mem_cons, List.forall_mem_cons, List.forall_mem_cons]
    exact ⟨rfl, rfl, rfl, ih (number + 1)⟩

/-- A switch to a task whose sections are blocks comes back, and makes its regions its sections, with the rights that it
is to have there, whatever the protection unit held before. The unit is off while the regions are written. A switch to no
task of the table writes nothing. The attribute words that are written are put together from fields with no bit in common,
and their size field is one less than the logarithm of the size. -/
theorem switchSpace_guards (board : CortexM) (prev next : TaskId) :
    (∀ desc, next.index?.bind (board.table[·]?) = some desc → (∀ kind, (desc.region kind).IsBlock) →
      ∃ regional : List RegisterWrite, (∀ written ∈ regional, written.register.isRegional = true) ∧
        Machine.switchSpace prev next board =
          .ok () (board.writeAll (ProtectionUnit.offMeanwhile regional)) ∧
        ∀ before after : ProtectionUnit,
          after = (ProtectionUnit.offMeanwhile regional).foldl ProtectionUnit.write before →
            after.IsOn ∧
              ∀ kind, Guards (after.regions (regionNumber kind)) (desc.region kind) (sectionAccess kind).rights) ∧
    (next.index?.bind (board.table[·]?) = none → Machine.switchSpace prev next board = .ok () board) ∧
    ∀ access (size : UInt32), 32 ≤ size.toNat →
      attributeWord access size = (attributeFields access size).foldl (· ||| ·) 0 ∧
        (attributeFields access size).Pairwise (fun first second => first &&& second = 0) ∧
        (attributeWord access size >>> 1 &&& 0x1f).toNat = Nat.log2 size.toNat - 1 ∧
        (sizeField size).toNat = 30 - size.toBitVec.clz.toNat := by
  refine ⟨fun desc found blocks => ?_, fun missing => ?_, fun access size large => ?_⟩
  · obtain ⟨words, wordsEq⟩ := exists_taskWords blocks
    refine ⟨regionWrites 0 words, isRegional_regionWrites 0 words, ?_, fun before after afterEq => ?_⟩
    · change switchSpace next board = _
      unfold switchSpace
      rw [found]
      exact protect_of_taskWords wordsEq board
    · have few : words.length = 3 := length_taskWords wordsEq
      have programmed : after.Programmed before words := by
        rw [afterEq]
        exact ProtectionUnit.programmed_foldl before (by rw [few]; decide)
      exact programmed.guards wordsEq blocks
  · change switchSpace next board = _
    unfold switchSpace
    rw [missing]
  · obtain ⟨wordEq, apart⟩ := pairwise_attributeFields access size
    exact ⟨wordEq, apart, (attributeWord_fields access size).2, toNat_sizeField_clz large⟩

namespace Demo

/-- A task whose sections are blocks of different sizes. -/
def blockTask : TaskDesc where
  priority := ⟨0⟩
  permission := ⟨0⟩
  text := ⟨0x08004000, 0x4000⟩
  bss := ⟨0x20000400, 0x20⟩
  stack := ⟨0x20000800, 0x800⟩

theorem isBlock_blockTask (kind : SectionKind) : (blockTask.region kind).IsBlock := by
  cases kind with
  | text => exact ⟨⟨14, rfl⟩, by decide, by decide⟩
  | bss => exact ⟨⟨5, rfl⟩, by decide, by decide⟩
  | stack => exact ⟨⟨11, rfl⟩, by decide, by decide⟩

def blockBoard : CortexM where
  table := [blockTask]
  served := []
  memory := { background := 0 }

end Demo

/-- The only task of the board is guarded after a switch to it. -/
theorem switchSpace_guards_demo :
    ∃ regional : List RegisterWrite,
      Machine.switchSpace .nobody (.ofIndex (0 : Fin 1)) Demo.blockBoard =
        .ok () (Demo.blockBoard.writeAll (ProtectionUnit.offMeanwhile regional)) ∧
      ∀ kind, Guards (((ProtectionUnit.offMeanwhile regional).foldl ProtectionUnit.write {}).regions (regionNumber kind))
        (Demo.blockTask.region kind) (sectionAccess kind).rights := by
  obtain ⟨regional, -, switched, guarded⟩ :=
    (switchSpace_guards Demo.blockBoard .nobody (.ofIndex (0 : Fin 1))).1 Demo.blockTask rfl Demo.isBlock_blockTask
  exact ⟨regional, switched, (guarded {} _ rfl).2⟩

end CortexM

end CoopKernel
