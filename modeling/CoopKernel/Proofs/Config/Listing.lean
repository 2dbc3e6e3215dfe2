import CoopKernel.Config.TableText
import CoopKernel.Proofs.Kernel.Stepping
import CoopKernel.Proofs.Source.Declarations

/-! # What the source text of a table declares

The source text of a table is meant for a compiler. `Listing.ofText?` reads it as one would: it takes the
declarations of the text, finds those that belong to the table by their names, checks their types and the
lengths of their arrays, and takes each number for one of the width that it is declared with. Fields are
found by their names, in any order.

`Listing.declarations` are those that stand for a configuration, and `ofDeclarations?_declarations` says that they
are read as what the configuration says.
-/

namespace CoopKernel

open Source

/-- What the declarations of a table say. -/
structure Listing where
  count : Nat
  interruptTask : TaskId
  irqs : List UInt32
  descs : List TaskDesc
deriving DecidableEq, Repr

namespace Listing

/-! ## Values of known types -/

def byte? : Expr → Option UInt8
  | .number value => if value < UInt8.size then some (UInt8.ofNat value) else none
  | _ => none

def word? : Expr → Option UInt32
  | .number value => if value < UInt32.size then some (UInt32.ofNat value) else none
  | _ => none

def signedByte? : Expr → Option Int8
  | .number value => if value < 128 then some (Int8.ofInt value) else none
  | .negative value => if value ≤ 128 then some (Int8.ofInt (-value)) else none
  | _ => none

/-- What a constructor of one argument is called with. -/
def argument? (head : List String) : Expr → Option Expr
  | .call found [argument] => if found = head then some argument else none
  | _ => none

/-- The fields of a record in the order of their names, if it has these and no others. -/
def fields? (head names : List String) : Expr → Option (List Expr)
  | .record found fields =>
      if found = head ∧ (fields.map (·.1)).isPerm names then names.mapM fun name => fields.lookup name else none
  | _ => none

def section? (value : Expr) : Option Section :=
  match fields? ["abi", "SectionDesc"] ["virtual_address", "size"] value with
  | some [address, size] => do return ⟨← word? address, ← word? size⟩
  | _ => none

def desc? (value : Expr) : Option TaskDesc :=
  match fields? ["abi", "TaskDesc"] ["priority", "mailbox_permission", "text", "bss", "stack"] value with
  | some [priority, permission, text, bss, stack] => do
      let level ← (argument? ["abi", "Priority"] priority).bind byte?
      let bits ← (argument? ["abi", "MailboxMask"] permission).bind word?
      return ⟨⟨level⟩, ⟨bits⟩, ← section? text, ← section? bss, ← section? stack⟩
  | _ => none

def taskId? (value : Expr) : Option TaskId :=
  ((argument? ["abi", "TaskId"] value).bind signedByte?).map TaskId.mk

/-! ## Declarations of known names -/

/-- The one declaration of a name. -/
def declared? (found : List Declaration) (name : String) : Option Declaration :=
  match found.filter (·.name == name) with
  | [only] => some only
  | _ => none

/-- The value that a name is declared with, if it has the type. -/
def typed? (found : List Declaration) (name : String) (type : List String) : Option Expr :=
  match declared? found name with
  | some ⟨_, .path names, value⟩ => if names = type then some value else none
  | _ => none

def count? (found : List Declaration) (name : String) : Option Nat :=
  match typed? found name ["usize"] with
  | some (.number value) => some value
  | _ => none

/-- The length of an array type: a number, or the name of a count. -/
def length? (found : List Declaration) : Expr → Option Nat
  | .number value => some value
  | .path [name] => count? found name
  | _ => none

/-- The items of an array, if it has as many as its type says. -/
def items? (found : List Declaration) (name : String) (item : List String) : Option (List Expr) :=
  match declared? found name with
  | some ⟨_, .array names length, .array items⟩ =>
      if names = item ∧ length? found length = some items.length then some items else none
  | _ => none

def ofDeclarations? (found : List Declaration) : Option Listing := do
  let count ← count? found "MOTH_TASK_COUNT"
  let interruptTask ← (typed? found "MOTH_INTERRUPT_TASK" ["abi", "TaskId"]).bind taskId?
  let irqs ← (← items? found "MOTH_INTERRUPT_IRQS" ["u32"]).mapM word?
  let descs ← (← items? found "MOTH_TASK_DESCS" ["abi", "TaskDesc"]).mapM desc?
  return ⟨count, interruptTask, irqs, descs⟩

def ofText? (text : String) : Option Listing := (declarations? text.toList).bind ofDeclarations?

/-! ## What a value of a type is written as -/

/-- The value that a section is written as. -/
def sectionExpr (region : Section) : Expr :=
  .record ["abi", "SectionDesc"] [("virtual_address", .number region.address.toNat), ("size", .number region.size.toNat)]

def descExpr (desc : TaskDesc) : Expr :=
  .record ["abi", "TaskDesc"] [("priority", .call ["abi", "Priority"] [.number desc.priority.level.toNat]),
    ("mailbox_permission", .call ["abi", "MailboxMask"] [.number desc.permission.bits.toNat]),
    ("text", sectionExpr desc.text), ("bss", sectionExpr desc.bss), ("stack", sectionExpr desc.stack)]

def taskIdExpr (id : TaskId) : Expr :=
  .call ["abi", "TaskId"]
    [if id.val.toInt < 0 then .negative id.val.toInt.natAbs else .number id.val.toInt.natAbs]

theorem byte?_number (byte : UInt8) : byte? (.number byte.toNat) = some byte := by
  rw [byte?, if_pos byte.toNat_lt, UInt8.ofNat_toNat]

theorem word?_number (word : UInt32) : word? (.number word.toNat) = some word := by
  rw [word?, if_pos word.toNat_lt, UInt32.ofNat_toNat]

theorem section?_sectionExpr (region : Section) : section? (sectionExpr region) = some region := by
  have fields : fields? ["abi", "SectionDesc"] ["virtual_address", "size"] (sectionExpr region) =
      some [.number region.address.toNat, .number region.size.toNat] := rfl
  rw [section?, fields]
  simp [word?_number]

theorem desc?_descExpr (desc : TaskDesc) : desc? (descExpr desc) = some desc := by
  have fields : fields? ["abi", "TaskDesc"] ["priority", "mailbox_permission", "text", "bss", "stack"] (descExpr desc) =
      some [.call ["abi", "Priority"] [.number desc.priority.level.toNat],
        .call ["abi", "MailboxMask"] [.number desc.permission.bits.toNat],
        sectionExpr desc.text, sectionExpr desc.bss, sectionExpr desc.stack] := rfl
  rw [desc?, fields]
  simp [argument?, byte?_number, word?_number, section?_sectionExpr]

theorem taskId?_taskIdExpr (id : TaskId) : taskId? (taskIdExpr id) = some id := by
  have low := id.val.le_toInt
  have high := id.val.toInt_lt
  have signed : signedByte? (if id.val.toInt < 0 then .negative id.val.toInt.natAbs else .number id.val.toInt.natAbs) =
      some id.val := by
    split
    · next negative =>
      have magnitude : -(id.val.toInt.natAbs : Int) = id.val.toInt := by omega
      rw [signedByte?, if_pos (by omega), magnitude, Int8.ofInt_toInt]
    · next natural =>
      have magnitude : (id.val.toInt.natAbs : Int) = id.val.toInt := by omega
      rw [signedByte?, if_pos (by omega), magnitude, Int8.ofInt_toInt]
  rw [taskId?, taskIdExpr, argument?, if_pos rfl, Option.bind_some, signed, Option.map_some]

/-! ## Tables -/

def declarations (config : KernelConfig) : List Declaration :=
  [⟨"MOTH_TASK_COUNT", .path ["usize"], .number config.tasks.length⟩,
    ⟨"MOTH_INTERRUPT_TASK", .path ["abi", "TaskId"], taskIdExpr config.interruptId⟩,
    ⟨"MOTH_INTERRUPT_IRQS", .array ["u32"] (.number config.irqs.length),
      .array (config.irqs.map fun irq => .number irq.toNat)⟩,
    ⟨"MOTH_TASK_DESCS", .array ["abi", "TaskDesc"] (.path ["MOTH_TASK_COUNT"]), .array (config.descs.map descExpr)⟩]

/-- The declarations of a table say what the configuration says. -/
theorem ofDeclarations?_declarations (config : KernelConfig) :
    ofDeclarations? (declarations config) =
      some ⟨config.tasks.length, config.interruptId, config.irqs, config.descs⟩ := by
  have count : count? (declarations config) "MOTH_TASK_COUNT" = some config.tasks.length := rfl
  have interruptTask : typed? (declarations config) "MOTH_INTERRUPT_TASK" ["abi", "TaskId"] =
      some (taskIdExpr config.interruptId) := rfl
  have irqs : items? (declarations config) "MOTH_INTERRUPT_IRQS" ["u32"] =
      some (config.irqs.map fun irq => .number irq.toNat) :=
    if_pos ⟨rfl, congrArg some (List.length_map _).symm⟩
  have descs : items? (declarations config) "MOTH_TASK_DESCS" ["abi", "TaskDesc"] = some (config.descs.map descExpr) := by
    refine if_pos ⟨rfl, congrArg some ?_⟩
    rw [List.length_map, KernelConfig.descs, List.length_map]
  rw [ofDeclarations?, count, interruptTask, irqs, descs]
  simp [taskId?_taskIdExpr, mapM_map_eq_some word?_number, mapM_map_eq_some desc?_descExpr]

end Listing

end CoopKernel
