import Mathlib.Algebra.Ring.Nat
import Mathlib.Data.List.Nodup
import CoopKernel.Config.Resolve
import CoopKernel.Config.TableText
import CoopKernel.Proofs.Source.Comments

/-! # Names in the source text of a table

The name of a task stands in a comment of its own line, as it was given. If it has no line end, it is gone
with the comment (`code_unnamed`). A name with a line end goes on outside of it, and then the text says
something else than it would with other names: `code_eq_iff` says that there is no third case, and
`named_module` is a module that a name brings into the kernel.
-/

namespace CoopKernel

open Source

/-! ## The lines of a table -/

/-- A sign that stands in no line of a table, but for the comments: a line end or a slash. -/
def IsForeign (c : Char) : Prop := c = '\n' ∨ c = '/'

theorem IsForeign.not_mem {c : Char} (foreign : IsForeign c) {word : List Char}
    (inside : ∀ sign ∈ word, sign.isAlphanum = true) : c ∉ word := by
  intro member
  have letter := inside c member
  rcases foreign with rfl | rfl <;> exact absurd letter (by decide)

variable {c : Char}

theorem Section.not_mem_line (foreign : IsForeign c) {label : String} (labelled : c ∉ label.toList) (region : Section) :
    c ∉ (region.line label).toList := by
  have address := foreign.not_mem (Numeral.isAlphanum_of_mem_paddedHex 8 region.address.toNat)
  have size := foreign.not_mem (Numeral.isAlphanum_of_mem_hex region.size.toNat)
  rcases foreign with rfl | rfl <;> simp [line, labelled, address, size]

namespace TaskConfig

/-- The lines of a task behind the comment that names it. -/
theorem not_mem_lines (foreign : IsForeign c) (task : TaskConfig) : ∀ line ∈ task.lines.tail, c ∉ line.toList := by
  have priority := foreign.not_mem (Numeral.isAlphanum_of_mem_decimal task.priority.level.toNat)
  have permission := foreign.not_mem (Numeral.isAlphanum_of_mem_paddedHex 8 task.permission.bits.toNat)
  have text : c ∉ (task.text.line "text").toList :=
    task.text.not_mem_line foreign (by rcases foreign with rfl | rfl <;> decide)
  have bss : c ∉ (task.bss.line "bss").toList :=
    task.bss.not_mem_line foreign (by rcases foreign with rfl | rfl <;> decide)
  have stack : c ∉ (task.stack.line "stack").toList :=
    task.stack.not_mem_line foreign (by rcases foreign with rfl | rfl <;> decide)
  simp only [lines, List.tail_cons, List.forall_mem_cons]
  refine ⟨?_, ?_, ?_, text, bss, stack, ?_⟩ <;> rcases foreign with rfl | rfl <;> simp [priority, permission]

def unnamed (task : TaskConfig) : TaskConfig := { task with name := "" }

theorem newline_not_mem_lines {task : TaskConfig} (single : '\n' ∉ task.name.toList) :
    ∀ line ∈ task.lines, '\n' ∉ line.toList := by
  intro line member
  rcases List.mem_cons.mp member with comment | behind
  · simp [comment, single]
  · exact task.not_mem_lines (.inl rfl) line behind

theorem uncomment_name {name : String} (single : '\n' ∉ name.toList) :
    uncomment ("    // " ++ name).toList = "    ".toList := by
  have split : ("    // " ++ name).toList = "    ".toList ++ '/' :: '/' :: ' ' :: name.toList := String.toList_append
  rw [split]
  exact uncomment_comment (by decide) (by simp [single])

/-- The comments gone, the lines of a task do not name it. -/
theorem uncomment_lines {task : TaskConfig} (single : '\n' ∉ task.name.toList) :
    task.lines.map (fun line => uncomment line.toList) = task.unnamed.lines.map (fun line => uncomment line.toList) := by
  have blank : uncomment ("    // " ++ task.name).toList = uncomment ("    // " ++ task.unnamed.name).toList :=
    (uncomment_name single).trans (uncomment_name List.not_mem_nil).symm
  exact congrArg (· :: task.lines.tail.map fun line => uncomment line.toList) blank

theorem count_newline_lines (task : TaskConfig) :
    (task.lines.flatMap fun line => line.toList ++ ['\n']).count '\n' =
      (task.unnamed.lines.flatMap fun line => line.toList ++ ['\n']).count '\n' + task.name.toList.count '\n' := by
  have split : ∀ task : TaskConfig, task.lines = ("    // " ++ task.name) :: task.lines.tail := fun _ => rfl
  have behind : task.unnamed.lines.tail = task.lines.tail := rfl
  have empty : task.unnamed.name.toList = [] := rfl
  rw [split task, split task.unnamed, behind]
  simp only [List.flatMap_cons, List.count_append, String.toList_append, empty, List.count_nil]
  omega

end TaskConfig

namespace KernelConfig

theorem not_mem_irqList (foreign : IsForeign c) : ∀ irqs : List UInt32, c ∉ (irqList irqs).toList
  | [] => List.not_mem_nil
  | [irq] => by
    simp only [irqList, List.map_cons, List.map_nil, List.intercalate_singleton, String.toList_ofList]
    exact foreign.not_mem (Numeral.isAlphanum_of_mem_digits (by decide) (by decide) irq.toNat)
  | irq :: next :: rest => by
    have first : c ∉ Numeral.digits 10 irq.toNat :=
      foreign.not_mem (Numeral.isAlphanum_of_mem_digits (by decide) (by decide) irq.toNat)
    have others := not_mem_irqList foreign (next :: rest)
    simp only [irqList, String.toList_ofList, List.map_cons] at others
    simp only [irqList, String.toList_ofList, List.map_cons, List.intercalate_cons_cons, List.mem_append, not_or]
    exact ⟨⟨first, by rcases foreign with rfl | rfl <;> decide⟩, others⟩

/-- The lines before the tasks. -/
def heading (config : KernelConfig) : List String := config.lines.take 5

theorem lines_eq (config : KernelConfig) :
    config.lines = config.heading ++ config.tasks.flatMap (·.lines) ++ ["];"] := rfl

/-- The lines between the first one, a comment, and the tasks. -/
theorem not_mem_heading (foreign : IsForeign c) (config : KernelConfig) :
    ∀ line ∈ config.heading.tail, c ∉ line.toList := by
  have count := foreign.not_mem (Numeral.isAlphanum_of_mem_decimal config.tasks.length)
  have lines := foreign.not_mem (Numeral.isAlphanum_of_mem_decimal config.irqs.length)
  have list := not_mem_irqList foreign config.irqs
  have magnitude := foreign.not_mem (Numeral.isAlphanum_of_mem_decimal config.interruptId.val.toInt.natAbs)
  have id : c ∉ (Numeral.signed config.interruptId.val.toInt).toList := by
    unfold Numeral.signed
    split
    · rcases foreign with rfl | rfl <;> simp [magnitude]
    · exact magnitude
  change ∀ line ∈ [_, _, _, _], _
  simp only [List.forall_mem_cons]
  refine ⟨?_, ?_, ?_, ?_, ?_⟩ <;> rcases foreign with rfl | rfl <;> simp [count, lines, id, list]

/-- A configuration without names. Configurations that differ in names only are the same without them. -/
def unnamed (config : KernelConfig) : KernelConfig := { config with tasks := config.tasks.map (·.unnamed) }

/-- What a compiler sees of the source text of a configuration. -/
def code (config : KernelConfig) : List Char := uncomment config.tableText.toList

theorem code_eq_uncomment (config : KernelConfig) :
    config.code = uncomment (config.lines.flatMap fun line => line.toList ++ ['\n']) := by
  rw [code, tableText, String.toList_ofList]

theorem heading_unnamed (config : KernelConfig) : config.unnamed.heading = config.heading := by
  simp only [heading, lines, unnamed, List.length_map]
  rfl

theorem unnamed_single (config : KernelConfig) : ∀ task ∈ config.unnamed.tasks, '\n' ∉ task.name.toList := by
  intro task member
  obtain ⟨named, -, rfl⟩ := List.mem_map.mp member
  exact List.not_mem_nil

theorem newline_not_mem_lines {config : KernelConfig} (single : ∀ task ∈ config.tasks, '\n' ∉ task.name.toList) :
    ∀ line ∈ config.lines, '\n' ∉ line.toList := by
  intro line member
  simp only [lines_eq, List.mem_append, List.mem_flatMap, List.mem_singleton] at member
  rcases member with (front | ⟨task, ofTask, inside⟩) | last
  · rcases List.mem_cons.mp front with comment | behind
    · rw [comment]
      decide
    · exact config.not_mem_heading (.inl rfl) line behind
  · exact TaskConfig.newline_not_mem_lines (single task ofTask) line inside
  · rw [last]
    decide

/-- Without line ends in names, each line loses its own comment. -/
theorem code_eq_flatMap {config : KernelConfig} (single : ∀ task ∈ config.tasks, '\n' ∉ task.name.toList) :
    config.code = (config.lines.map fun line => uncomment line.toList).flatMap (· ++ ['\n']) := by
  have split : config.code = uncomment ((config.lines.map String.toList).flatMap (· ++ ['\n'])) := by
    rw [code_eq_uncomment, List.flatMap_map]
  rw [split, uncomment_flatMap, List.flatMap_map, List.flatMap_map]
  simpa only [List.forall_mem_map] using newline_not_mem_lines single

/-- Names without line ends leave nothing in the code. -/
theorem code_unnamed {config : KernelConfig} (single : ∀ task ∈ config.tasks, '\n' ∉ task.name.toList) :
    config.code = config.unnamed.code := by
  rw [code_eq_flatMap single, code_eq_flatMap config.unnamed_single]
  congr 1
  rw [lines_eq, lines_eq, heading_unnamed]
  simp only [List.map_append, List.map_flatMap]
  congr 2
  rw [unnamed, List.flatMap_map, List.flatMap_def, List.flatMap_def]
  exact congrArg List.flatten (List.map_congr_left fun task member => TaskConfig.uncomment_lines (single task member))

theorem count_newline_tasks (tasks : List TaskConfig) :
    ((tasks.flatMap (·.lines)).flatMap fun line => line.toList ++ ['\n']).count '\n' =
      (((tasks.map (·.unnamed)).flatMap (·.lines)).flatMap fun line => line.toList ++ ['\n']).count '\n' +
        (tasks.map fun task => task.name.toList.count '\n').sum := by
  induction tasks with
  | nil => rfl
  | cons task rest ih =>
    have own := task.count_newline_lines
    simp only [List.flatMap_cons, List.flatMap_append, List.count_append, List.map_cons, List.sum_cons, ih, own]
    omega

/-- A text has as many lines as it would have without names, and one more for each line end in a name. -/
theorem count_newline_tableText (config : KernelConfig) :
    config.tableText.toList.count '\n' =
      config.unnamed.tableText.toList.count '\n' + (config.tasks.map fun task => task.name.toList.count '\n').sum := by
  have tasksEq : config.unnamed.tasks = config.tasks.map (·.unnamed) := rfl
  have own := count_newline_tasks config.tasks
  simp only [tableText, String.toList_ofList, lines_eq, heading_unnamed, tasksEq, List.flatMap_append,
    List.count_append, own]
  omega

/-- Configurations that differ in names only have the same code exactly if no name of the one has a line end, if none of
the other has. -/
theorem code_eq_iff {named plain : KernelConfig} (same : named.unnamed = plain.unnamed)
    (single : ∀ task ∈ plain.tasks, '\n' ∉ task.name.toList) :
    named.code = plain.code ↔ ∀ task ∈ named.tasks, '\n' ∉ task.name.toList := by
  constructor
  · intro codeEq task member contains
    have counts : named.tableText.toList.count '\n' = named.unnamed.tableText.toList.count '\n' := by
      calc named.tableText.toList.count '\n'
        _ = named.code.count '\n' := (count_newline_uncomment _).symm
        _ = named.unnamed.code.count '\n' := by rw [codeEq, same, code_unnamed single]
        _ = named.unnamed.tableText.toList.count '\n' := count_newline_uncomment _
    have total : (named.tasks.map fun task => task.name.toList.count '\n').sum = 0 := by
      have := count_newline_tableText named
      omega
    have none := List.sum_eq_zero_iff_forall_eq_nat.mp total _ (List.mem_map_of_mem member)
    exact List.count_eq_zero.mp none contains
  · intro alsoSingle
    rw [code_unnamed alsoSingle, code_unnamed single, same]

end KernelConfig

/-- An application of one task, whatever its name. -/
def App.solo (name : String) : App where
  name := "solo"
  interruptTask := none
  irqs := []
  tasks := [(name, ⟨⟨1⟩, [], ⟨0x1000, 0x100⟩, ⟨0x2000, 0x100⟩, ⟨0x3000, 0x100⟩⟩)]
  distinct := List.nodup_singleton name

namespace KernelConfig

def solo (name : String) : KernelConfig :=
  ⟨[⟨name, ⟨1⟩, ⟨0⟩, ⟨0x1000, 0x100⟩, ⟨0x2000, 0x100⟩, ⟨0x3000, 0x100⟩⟩], none, []⟩

/-- What looks like a comment and a module is a name, as long as it is on one line. -/
theorem code_eq_of_one_line : (solo "a // mod evil;").unnamed = (solo "a").unnamed ∧
    (solo "a // mod evil;").code = (solo "a").code := by
  have same : (solo "a // mod evil;").unnamed = (solo "a").unnamed := rfl
  exact ⟨same, (code_eq_iff same (by decide)).mpr (by decide)⟩

/-- The second line of a name is a module of the kernel. -/
theorem named_module : (App.solo "a").resolve = .ok (solo "a") ∧
    (App.solo "a\nmod evil \x7b \x7d").resolve = .ok (solo "a\nmod evil \x7b \x7d") ∧
    (solo "a\nmod evil \x7b \x7d").unnamed = (solo "a").unnamed ∧
    "\nmod evil \x7b \x7d\n".toList <:+: (solo "a\nmod evil \x7b \x7d").code ∧
    (solo "a\nmod evil \x7b \x7d").code ≠ (solo "a").code := by
  refine ⟨by decide +kernel, by decide +kernel, rfl, ?_, ?_⟩
  · rw [code_eq_uncomment]
    decide +kernel
  · rw [code_eq_uncomment, code_eq_uncomment]
    decide +kernel

end KernelConfig

end CoopKernel
