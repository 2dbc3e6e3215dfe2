import CoopKernel.Config.KernelConfig

/-! # The table as source text

A configuration is compiled into the kernel as declarations: the number of tasks, the id of the
interrupt task, the interrupt lines, and one entry for each task under a comment with its name.
-/

namespace CoopKernel

def Section.line (label : String) (region : Section) : String :=
  "        " ++ label ++ ": abi::SectionDesc \x7b virtual_address: " ++
    Numeral.paddedHex 8 region.address.toNat ++ ", size: " ++ Numeral.hex region.size.toNat ++ " \x7d,"

def TaskConfig.lines (task : TaskConfig) : List String :=
  ["    // " ++ task.name,
    "    abi::TaskDesc \x7b",
    "        priority: abi::Priority(" ++ Numeral.decimal task.priority.level.toNat ++ "),",
    "        mailbox_permission: abi::MailboxMask(" ++
      Numeral.paddedHex 8 task.permission.bits.toNat ++ "),",
    task.text.line "text",
    task.bss.line "bss",
    task.stack.line "stack",
    "    \x7d,"]

namespace KernelConfig

/-- The id of the interrupt task: the low eight bits of its place, or the id that names no task. -/
def interruptId (config : KernelConfig) : TaskId :=
  match config.interruptTask with
  | some place => .ofIndex place.toNat
  | none => .nobody

theorem interruptId_of_some {config : KernelConfig} {place : UInt64} (configured : config.interruptTask = some place) :
    config.interruptId = .ofIndex place.toNat := by
  rw [interruptId, configured]

theorem interruptId_of_none {config : KernelConfig} (unconfigured : config.interruptTask = none) :
    config.interruptId = .nobody := by
  rw [interruptId, unconfigured]

def irqList (irqs : List UInt32) : String :=
  String.ofList ([',', ' '].intercalate (irqs.map fun irq => Numeral.digits 10 irq.toNat))

def lines (config : KernelConfig) : List String :=
  ["// See build.rs for details",
    "pub const MOTH_TASK_COUNT: usize = " ++ Numeral.decimal config.tasks.length ++ ";",
    "pub const MOTH_INTERRUPT_TASK: abi::TaskId = abi::TaskId(" ++
      Numeral.signed config.interruptId.val.toInt ++ ");",
    "pub static MOTH_INTERRUPT_IRQS: [u32; " ++ Numeral.decimal config.irqs.length ++ "] = [" ++
      irqList config.irqs ++ "];",
    "pub static MOTH_TASK_DESCS: [abi::TaskDesc; MOTH_TASK_COUNT] = ["] ++
  config.tasks.flatMap (·.lines) ++ ["];"]

/-- The text that declares a configuration; every line is ended. -/
def tableText (config : KernelConfig) : String :=
  String.ofList (config.lines.flatMap fun line => line.toList ++ ['\n'])

end KernelConfig

end CoopKernel
