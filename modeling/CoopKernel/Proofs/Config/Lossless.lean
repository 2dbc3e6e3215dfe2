import CoopKernel.Config.Build
import CoopKernel.Config.Demo
import CoopKernel.Proofs.Kernel.Stepping
import CoopKernel.Proofs.Ron.Printing

/-! # A configuration that is handed on arrives

A configuration is written as RON and read by another step of the build. Whatever the names and numbers
in it are, the reader gives the same configuration back (`KernelConfig.ofRon?_toRon`), so it makes no
difference to the table whether the application file is resolved in the step that writes the table or
in one before it (`Surroundings.handed_on`).
-/

namespace CoopKernel

open Ron (Legible)

namespace Handoff

theorem below?_natural {limit number : Nat} (inside : number < limit) :
    below? limit (.natural number) = some number := if_pos inside

theorem word?_natural (word : UInt32) : word? (.natural word.toNat) = some word := by
  rw [word?, below?_natural word.toNat_lt_size, Option.map_some, UInt32.ofNat_toNat]

end Handoff

open Handoff

/-! ## Sections -/

theorem Section.ofRon?_toRon (region : Section) : Section.ofRon? region.toRon = some region := by
  unfold Section.ofRon? Section.toRon
  simp [fieldsOf?, only?, valuesOf, word?_natural]

theorem Section.legible_toRon (region : Section) (depth : Nat) : Legible (depth + 2) region.toRon := by
  have fits (word : UInt32) : word.toNat < UInt64.size := Nat.lt_trans word.toNat_lt_size (by decide)
  refine .record (List.cons_ne_nil _ _) ?_ ?_
  · simp only [List.forall_mem_cons]
    exact ⟨rfl, rfl, List.forall_mem_nil _⟩
  · simp only [List.forall_mem_cons]
    exact ⟨.natural (fits _), .natural (fits _), List.forall_mem_nil _⟩

/-! ## Tasks -/

theorem TaskConfig.ofRon?_toRon (task : TaskConfig) : TaskConfig.ofRon? task.toRon = some task := by
  have priority : (below? UInt8.size (.natural task.priority.level.toNat)).map UInt8.ofNat = some task.priority.level := by
    rw [below?_natural task.priority.level.toNat_lt_size, Option.map_some, UInt8.ofNat_toNat]
  unfold TaskConfig.ofRon? TaskConfig.toRon
  simp [fieldsOf?, only?, valuesOf, text?, word?_natural, priority, Section.ofRon?_toRon]

theorem TaskConfig.legible_toRon (task : TaskConfig) (depth : Nat) : Legible (depth + 4) task.toRon := by
  have level : task.priority.level.toNat < UInt64.size := Nat.lt_trans task.priority.level.toNat_lt_size (by decide)
  have mask : task.permission.bits.toNat < UInt64.size := Nat.lt_trans task.permission.bits.toNat_lt_size (by decide)
  refine .record (List.cons_ne_nil _ _) ?_ ?_
  · simp only [List.forall_mem_cons]
    exact ⟨rfl, rfl, rfl, rfl, rfl, rfl, List.forall_mem_nil _⟩
  · simp only [List.forall_mem_cons]
    exact ⟨.text, .natural level, .natural mask, task.text.legible_toRon depth, task.bss.legible_toRon depth,
      task.stack.legible_toRon depth, List.forall_mem_nil _⟩

/-! ## Configurations -/

namespace KernelConfig

variable {extensions : Ron.Extensions}

theorem ofValue?_toValue (config : KernelConfig) : ofValue? extensions config.toValue = some config := by
  obtain ⟨tasks, interruptTask, irqs⟩ := config
  have tasksBack := mapM_map_eq_some TaskConfig.ofRon?_toRon tasks
  have irqsBack := mapM_map_eq_some word?_natural irqs
  unfold ofValue? toValue
  cases interruptTask with
  | none => simp [fieldsOf?, only?, valuesOf, items?, interruptTaskOf?, optional?, tasksBack, irqsBack]
  | some place =>
    have placeBack := below?_natural place.toNat_lt_size
    simp [fieldsOf?, only?, valuesOf, items?, interruptTaskOf?, optional?, tasksBack, irqsBack, placeBack]

theorem legible_toValue (config : KernelConfig) (depth : Nat) : Legible (depth + 8) config.toValue := by
  refine .record (List.cons_ne_nil _ _) ?_ ?_
  · simp only [List.forall_mem_cons]
    exact ⟨rfl, rfl, rfl, List.forall_mem_nil _⟩
  · simp only [List.forall_mem_cons]
    refine ⟨.list ?_, ?_, .list ?_, List.forall_mem_nil _⟩
    · exact List.forall_mem_map.mpr fun task _ => task.legible_toRon depth
    · cases config.interruptTask with
      | none => exact .absent
      | some place => exact .present (.natural place.toNat_lt_size)
    · exact List.forall_mem_map.mpr fun irq _ => .natural (Nat.lt_trans irq.toNat_lt_size (by decide))

end KernelConfig

/-- A configuration is read back from the text in which it is handed on. -/
theorem KernelConfig.ofRon?_toRon (config : KernelConfig) : KernelConfig.ofRon? config.toRon = some config := by
  rw [ofRon?, toRon, String.toList_ofList, Ron.read?_print (config.legible_toValue 120)]
  exact config.ofValue?_toValue

/-! ## The two ways to a table -/

namespace Surroundings

variable {around : Surroundings} {path : String} {config : KernelConfig}

theorem config_of_appFile (nothing : around.handoff = none) (named : around.appFile = some path)
    (resolved : around.resolveFile path = .ok config) : around.config = .ok (some config) := by
  rw [Surroundings.config, nothing, named]
  dsimp only
  rw [resolved]
  rfl

theorem config_of_handoff {text : String} (given : around.handoff = some text)
    (found : KernelConfig.ofRon? text = some config) : around.config = .ok (some config) := by
  rw [Surroundings.config, given]
  dsimp only
  rw [found]

theorem table_of_config (known : around.config = .ok (some config)) :
    around.table = if around.hasOutput then .ok (some config.tableText) else .error .noOutput := by
  rw [table, known]
  rfl

/-- A configuration that is handed on arrives as it was. A step that gets it writes the same table as a step that
resolves the application file itself, which is the table of the configuration. -/
theorem handed_on :
    (∀ config : KernelConfig, KernelConfig.ofRon? config.toRon = some config) ∧
    ∀ (direct later : Surroundings) (path : String) (config : KernelConfig),
      direct.handoff = none → direct.appFile = some path → direct.resolveFile path = .ok config →
      later.handoff = some config.toRon → later.hasOutput = direct.hasOutput →
      later.table = direct.table ∧ (direct.hasOutput = true → direct.table = .ok (some config.tableText)) := by
  refine ⟨KernelConfig.ofRon?_toRon, ?_⟩
  intro direct later path config nothing named resolved given sameOutput
  have directTable := table_of_config (config_of_appFile nothing named resolved)
  have laterTable := table_of_config (config_of_handoff given config.ofRon?_toRon)
  refine ⟨?_, fun hasOutput => ?_⟩
  · rw [laterTable, directTable, sameOutput]
  · rw [directTable, hasOutput, if_pos rfl]

/-- A file of one task, in whose name a quote, a backslash, a line end and a mark have to be escaped. -/
def quotedFile : String :=
  "name = \"t\"\n[tasks.\"a\\\"\\\\\\n\\u0301\"]\npriority = 1\ntext = \x7b address = 0x1000, size = 0x100 \x7d\n" ++
    "bss = \x7b address = 0x2000, size = 0x100 \x7d\nstack = \x7b address = 0x3000, size = 0x100 \x7d\n"

/-- What the file resolves to. -/
def quotedConfig : KernelConfig :=
  ⟨[⟨"a\"\\\n\u0301", ⟨1⟩, ⟨0⟩, ⟨0x1000, 0x100⟩, ⟨0x2000, 0x100⟩, ⟨0x3000, 0x100⟩⟩], none, []⟩

/-- The text in which that is handed on. -/
def quotedText : String :=
  "(tasks:[(name:\"a\\\"\\\\\\n\\u\x7b301\x7d\",priority:1,mailbox_permission:0,text:(address:4096,size:256)," ++
    "bss:(address:8192,size:256),stack:(address:12288,size:256))],interrupt_task:None,irqs:[])"

/-- The name of the task is escaped on the way and arrives, and so does the table. -/
theorem handed_on_quoted :
    ∃ direct later : Surroundings, direct.textOf "app.toml" = some quotedFile ∧
      direct.resolveFile "app.toml" = .ok quotedConfig ∧ later.handoff = some quotedText ∧
      later.table = direct.table ∧ direct.table = .ok (some quotedConfig.tableText) := by
  have written : quotedConfig.toRon = quotedText := by decide +kernel
  have resolved : Surroundings.resolveFile ⟨none, some "app.toml", fun _ => some quotedFile, true⟩ "app.toml" =
      .ok quotedConfig := by
    decide +kernel
  obtain ⟨sameTable, tableEq⟩ := handed_on.2 ⟨none, some "app.toml", fun _ => some quotedFile, true⟩
    ⟨some quotedText, none, fun _ => none, true⟩ "app.toml" quotedConfig rfl rfl resolved (by rw [written]) rfl
  exact ⟨_, _, rfl, resolved, rfl, sameTable, tableEq rfl⟩

end Surroundings

end CoopKernel
