import CoopKernel.Proofs.Config.Listing
import CoopKernel.Proofs.Config.Naming
import CoopKernel.Proofs.Kernel.Replay

/-! # The source text of a configuration says what the configuration says

The text and the table that the kernel runs are made of the same configuration in two ways. Without its
comments, the text has the tokens of four declarations (`Listing.tokens_code`); these are read one by one as
the declarations of the configuration (`Listing.declarations?_tableText`), and so a compiler finds the table
in the text (`KernelConfig.listed`). For each part of the text there is one lemma that says what its tokens
are, and one that says what is read from them.
-/

namespace CoopKernel

open Source

namespace Listing

/-! ## The tokens of a table -/

/-- The fields of a section: names, tokens and values. -/
def sectionFields (region : Section) : List (String × List Token × Expr) :=
  [("virtual_address", [.word (Numeral.paddedHex 8 region.address.toNat)], .number region.address.toNat),
    ("size", [.word (Numeral.hex region.size.toNat)], .number region.size.toNat)]

def sectionText (region : Section) : List Token :=
  .word "abi" :: (pathTail ["SectionDesc"] ++
    .mark '\x7b' :: (separated ((sectionFields region).map fieldText) ++ [.mark '\x7d']))

theorem reads_section {depth : Nat} (region : Section) :
    Reads (readExpr? (depth + 2)) (sectionText region) (sectionExpr region) := by
  have each : ∀ field ∈ sectionFields region,
      Reads (readField? (readExpr? (depth + 1))) (fieldText field) (fieldValue field) := by
    intro field member
    refine reads_field ?_
    simp only [sectionFields, List.mem_cons, List.not_mem_nil, or_false] at member
    rcases member with rfl | rfl
    · exact reads_number (isNumeral_paddedHex 8 _)
    · exact reads_number (isNumeral_hex _)
  refine reads_record (by decide) fun rest => ?_
  rw [List.append_assoc, List.singleton_append]
  exact readListed?_separated each (by decide) rest

theorem tokens_line {label : String} (isWord : IsWord label) (region : Section) :
    tokens (region.line label).toList = .word label :: .mark ':' :: (sectionText region ++ [.mark ',']) := by
  have gaps : (region.line label).toList = fillIn "        " [(label, ": abi::SectionDesc \x7b virtual_address: "),
      (Numeral.paddedHex 8 region.address.toNat, ", size: "), (Numeral.hex region.size.toNat, " \x7d,")] := by
    simp [Section.line, fillIn]
  have opening : tokens ": abi::SectionDesc \x7b virtual_address: ".toList =
      [.mark ':', .word "abi", .mark ':', .mark ':', .word "SectionDesc", .mark '\x7b', .word "virtual_address",
        .mark ':'] := by
    decide +kernel
  have middle : tokens ", size: ".toList = [.mark ',', .word "size", .mark ':'] := by decide +kernel
  have closing : tokens " \x7d,".toList = [.mark '\x7d', .mark ','] := by decide +kernel
  have blank : tokens "        ".toList = [] := by decide +kernel
  rw [gaps, tokens_fillIn (by decide)]
  · simp only [List.flatMap_cons, List.flatMap_nil, opening, middle, closing, blank]
    rfl
  · simp [isWord, (isNumeral_paddedHex 8 region.address.toNat).isWord, (isNumeral_hex region.size.toNat).isWord]
    decide

/-- The tokens of a call with one argument. -/
def callText (name : String) (argument : List Token) : List Token :=
  .word "abi" :: (pathTail [name] ++ .mark '(' :: (argument ++ [.mark ')']))

theorem reads_argument {depth : Nat} {text : List Token} {value : Expr} (reads : Reads (readExpr? depth) text value)
    (name : String) : Reads (readExpr? (depth + 1)) (callText name text) (.call ["abi", name] [value]) := by
  have each : ∀ part ∈ [(text, value)], Reads (readExpr? depth) part.1 part.2 := by
    rintro _ ⟨⟩
    · exact reads
    · contradiction
  have closes : ')' ∈ closings := by decide
  refine reads_call (by decide) fun rest => ?_
  rw [List.append_assoc, List.singleton_append]
  have listed := readListed?_separated each closes rest
  rwa [List.map_singleton, separated, List.intercalate_singleton] at listed

def descFields (desc : TaskDesc) : List (String × List Token × Expr) :=
  [("priority", callText "Priority" [.word (Numeral.decimal desc.priority.level.toNat)],
      .call ["abi", "Priority"] [.number desc.priority.level.toNat]),
    ("mailbox_permission", callText "MailboxMask" [.word (Numeral.paddedHex 8 desc.permission.bits.toNat)],
      .call ["abi", "MailboxMask"] [.number desc.permission.bits.toNat]),
    ("text", sectionText desc.text, sectionExpr desc.text), ("bss", sectionText desc.bss, sectionExpr desc.bss),
    ("stack", sectionText desc.stack, sectionExpr desc.stack)]

def descText (desc : TaskDesc) : List Token :=
  .word "abi" :: (pathTail ["TaskDesc"] ++
    .mark '\x7b' :: (terminated ((descFields desc).map fieldText) ++ [.mark '\x7d']))

theorem reads_desc {depth : Nat} (desc : TaskDesc) :
    Reads (readExpr? (depth + 3)) (descText desc) (descExpr desc) := by
  have each : ∀ field ∈ descFields desc,
      Reads (readField? (readExpr? (depth + 2))) (fieldText field) (fieldValue field) := by
    intro field member
    refine reads_field ?_
    simp only [descFields, List.mem_cons, List.not_mem_nil, or_false] at member
    rcases member with rfl | rfl | rfl | rfl | rfl
    · exact reads_argument (reads_number (isNumeral_decimal _)) "Priority"
    · exact reads_argument (reads_number (isNumeral_paddedHex 8 _)) "MailboxMask"
    · exact reads_section desc.text
    · exact reads_section desc.bss
    · exact reads_section desc.stack
  refine reads_record (by decide) fun rest => ?_
  rw [List.append_assoc, List.singleton_append]
  exact readListed?_terminated each (by decide) rest

/-- The tokens of a line, the comments gone. -/
def lineText (line : String) : List Token := tokens (uncomment line.toList)

/-- Lines without slashes have all their tokens outside of comments. -/
theorem flatMap_lineText_of_not_mem {lines : List String} (code : ∀ line ∈ lines, '/' ∉ line.toList) :
    lines.flatMap lineText = lines.flatMap fun line => tokens line.toList := by
  rw [List.flatMap_def, List.flatMap_def]
  refine congrArg List.flatten (List.map_congr_left fun line member => ?_)
  rw [lineText, uncomment_of_not_mem (code line member)]

theorem tokens_callEnd : tokens "),".toList = [.mark ')', .mark ','] := by decide +kernel

theorem tokens_priority (level : UInt8) :
    tokens ("        priority: abi::Priority(" ++ Numeral.decimal level.toNat ++ "),").toList =
      .word "priority" :: .mark ':' :: (callText "Priority" [.word (Numeral.decimal level.toNat)] ++ [.mark ',']) := by
  have opening : tokens "        priority: abi::Priority(".toList =
      [.word "priority", .mark ':', .word "abi", .mark ':', .mark ':', .word "Priority", .mark '('] := by
    decide +kernel
  rw [tokens_around (isNumeral_decimal _).isWord (by decide) (by decide), opening, tokens_callEnd]
  rfl

theorem tokens_permission (bits : UInt32) :
    tokens ("        mailbox_permission: abi::MailboxMask(" ++ Numeral.paddedHex 8 bits.toNat ++ "),").toList =
      .word "mailbox_permission" :: .mark ':' ::
        (callText "MailboxMask" [.word (Numeral.paddedHex 8 bits.toNat)] ++ [.mark ',']) := by
  have opening : tokens "        mailbox_permission: abi::MailboxMask(".toList =
      [.word "mailbox_permission", .mark ':', .word "abi", .mark ':', .mark ':', .word "MailboxMask", .mark '('] := by
    decide +kernel
  rw [tokens_around (isNumeral_paddedHex 8 _).isWord (by decide) (by decide), opening, tokens_callEnd]
  rfl

/-- The lines of a task are the tokens of its entry. -/
theorem flatMap_lineText {task : TaskConfig} (single : '\n' ∉ task.name.toList) :
    task.lines.flatMap lineText = descText task.desc ++ [.mark ','] := by
  have comment : lineText ("    // " ++ task.name) = [] := by
    rw [lineText, TaskConfig.uncomment_name single]
    decide +kernel
  have opening : tokens "    abi::TaskDesc \x7b".toList =
      [.word "abi", .mark ':', .mark ':', .word "TaskDesc", .mark '\x7b'] := by
    decide +kernel
  have closing : tokens "    \x7d,".toList = [.mark '\x7d', .mark ','] := by decide +kernel
  have split : task.lines = ("    // " ++ task.name) :: task.lines.tail := rfl
  rw [split, List.flatMap_cons, comment, List.nil_append, flatMap_lineText_of_not_mem (task.not_mem_lines (.inr rfl))]
  simp only [TaskConfig.lines, List.tail_cons, List.flatMap_cons, List.flatMap_nil, opening, closing, tokens_priority,
    tokens_permission]
  rw [tokens_line (by decide), tokens_line (by decide), tokens_line (by decide)]
  rfl

def irqsText (irqs : List UInt32) : List Token := separated (irqs.map fun irq => [.word (Numeral.decimal irq.toNat)])

theorem tokens_digits (number : Nat) : tokens (Numeral.digits 10 number) = [.word (Numeral.decimal number)] := by
  rw [← tokens_word (isNumeral_decimal number).isWord, Numeral.decimal, String.toList_ofList]

theorem tokens_irqList : ∀ irqs : List UInt32, tokens (KernelConfig.irqList irqs).toList = irqsText irqs
  | [] => rfl
  | [irq] => by
    rw [KernelConfig.irqList, String.toList_ofList, List.map_singleton, List.intercalate_singleton, tokens_digits, irqsText,
      List.map_singleton, separated, List.intercalate_singleton]
  | irq :: next :: rest => by
    have others := tokens_irqList (next :: rest)
    have comma : tokens [',', ' '] = [.mark ','] := by decide +kernel
    simp only [KernelConfig.irqList, String.toList_ofList, irqsText, separated, List.map_cons] at others
    simp only [KernelConfig.irqList, String.toList_ofList, irqsText, separated, List.map_cons,
      List.intercalate_cons_cons]
    have blank : isWordSign ' ' = false := by decide
    rw [tokens_append_of_last (by simp [blank]), tokens_append_of_head (by decide), tokens_digits, comma, others]

/-! ## The declarations of a table -/

def countText (count : Nat) : List Token :=
  declarationText "const" "MOTH_TASK_COUNT" (.word "usize" :: pathTail []) [.word (Numeral.decimal count)]

/-- The tokens of a number that may be negative. -/
def signedText (value : Int) : List Token :=
  if value < 0 then [.mark '-', .word (Numeral.decimal value.natAbs)] else [.word (Numeral.decimal value.natAbs)]

def interruptText (id : TaskId) : List Token :=
  declarationText "const" "MOTH_INTERRUPT_TASK" (.word "abi" :: pathTail ["TaskId"])
    (callText "TaskId" (signedText id.val.toInt))

def irqsDeclText (irqs : List UInt32) : List Token :=
  declarationText "static" "MOTH_INTERRUPT_IRQS" (arrayText "u32" [] [.word (Numeral.decimal irqs.length)])
    (.mark '[' :: (irqsText irqs ++ [.mark ']']))

def descsText (descs : List TaskDesc) : List Token :=
  declarationText "static" "MOTH_TASK_DESCS" (arrayText "abi" ["TaskDesc"] [.word "MOTH_TASK_COUNT"])
    (.mark '[' :: (terminated (descs.map descText) ++ [.mark ']']))

theorem tokens_countLine (count : Nat) :
    tokens ("pub const MOTH_TASK_COUNT: usize = " ++ Numeral.decimal count ++ ";").toList = countText count := by
  have opening : tokens "pub const MOTH_TASK_COUNT: usize = ".toList =
      [.word "pub", .word "const", .word "MOTH_TASK_COUNT", .mark ':', .word "usize", .mark '='] := by
    decide +kernel
  have closing : tokens ";".toList = [.mark ';'] := by decide +kernel
  rw [tokens_around (isNumeral_decimal _).isWord (by decide) (by decide), opening, closing]
  rfl

theorem tokens_interruptLine (id : TaskId) :
    tokens ("pub const MOTH_INTERRUPT_TASK: abi::TaskId = abi::TaskId(" ++ Numeral.signed id.val.toInt ++ ");").toList =
      interruptText id := by
  have opening : tokens "pub const MOTH_INTERRUPT_TASK: abi::TaskId = abi::TaskId(".toList =
      [.word "pub", .word "const", .word "MOTH_INTERRUPT_TASK", .mark ':', .word "abi", .mark ':', .mark ':',
        .word "TaskId", .mark '=', .word "abi", .mark ':', .mark ':', .word "TaskId", .mark '('] := by
    decide +kernel
  have minus : tokens "pub const MOTH_INTERRUPT_TASK: abi::TaskId = abi::TaskId(-".toList =
      tokens "pub const MOTH_INTERRUPT_TASK: abi::TaskId = abi::TaskId(".toList ++ [.mark '-'] := by
    decide +kernel
  have closing : tokens ");".toList = [.mark ')', .mark ';'] := by decide +kernel
  have isWord := (isNumeral_decimal id.val.toInt.natAbs).isWord
  unfold Numeral.signed interruptText signedText
  split
  · have joined : "pub const MOTH_INTERRUPT_TASK: abi::TaskId = abi::TaskId(" ++
        ("-" ++ Numeral.decimal id.val.toInt.natAbs) =
          "pub const MOTH_INTERRUPT_TASK: abi::TaskId = abi::TaskId(-" ++ Numeral.decimal id.val.toInt.natAbs := by
      rw [← String.append_assoc]
      rfl
    rw [joined, tokens_around isWord (by decide) (by decide), minus, opening, closing]
    rfl
  · rw [tokens_around isWord (by decide) (by decide), opening, closing]
    rfl

theorem tokens_irqsLine (irqs : List UInt32) :
    tokens ("pub static MOTH_INTERRUPT_IRQS: [u32; " ++ Numeral.decimal irqs.length ++ "] = [" ++
      KernelConfig.irqList irqs ++ "];").toList = irqsDeclText irqs := by
  have opening : tokens "pub static MOTH_INTERRUPT_IRQS: [u32; ".toList =
      [.word "pub", .word "static", .word "MOTH_INTERRUPT_IRQS", .mark ':', .mark '[', .word "u32", .mark ';'] := by
    decide +kernel
  have middle : tokens "] = [".toList = [.mark ']', .mark '=', .mark '['] := by decide +kernel
  have closing : tokens "];".toList = [.mark ']', .mark ';'] := by decide +kernel
  have last : "] = [".toList.getLast? = some '[' := by decide
  rw [String.toList_append, String.toList_append, tokens_append_of_head (by decide), tokens_append_of_last,
    tokens_around (isNumeral_decimal _).isWord (by decide) (by decide), opening, middle, closing, tokens_irqList]
  · simp [irqsDeclText, declarationText, arrayText, pathTail]
  · rw [String.toList_append, List.getLast?_append, last]
    rfl

/-- The tokens of the tasks are those of the entries of the table, with a comma behind each. -/
theorem flatMap_tasks {tasks : List TaskConfig} (single : ∀ task ∈ tasks, '\n' ∉ task.name.toList) :
    (tasks.flatMap (·.lines)).flatMap lineText = terminated ((tasks.map (·.desc)).map descText) := by
  induction tasks with
  | nil => rfl
  | cons task others ih =>
    rw [List.forall_mem_cons] at single
    rw [List.flatMap_cons, List.flatMap_append, flatMap_lineText single.1, ih single.2, List.map_cons, List.map_cons,
      terminated, terminated, List.flatMap_cons]

/-- The tokens of a table are those of its four declarations. -/
theorem tokens_code {config : KernelConfig} (single : ∀ task ∈ config.tasks, '\n' ∉ task.name.toList) :
    tokens config.code = [countText config.tasks.length, interruptText config.interruptId, irqsDeclText config.irqs,
      descsText config.descs].flatten := by
  have comment : lineText "// See build.rs for details" = [] := by decide +kernel
  have opening : tokens "pub static MOTH_TASK_DESCS: [abi::TaskDesc; MOTH_TASK_COUNT] = [".toList =
      [.word "pub", .word "static", .word "MOTH_TASK_DESCS", .mark ':', .mark '[', .word "abi", .mark ':', .mark ':',
        .word "TaskDesc", .mark ';', .word "MOTH_TASK_COUNT", .mark ']', .mark '=', .mark '['] := by
    decide +kernel
  have closing : lineText "];" = [.mark ']', .mark ';'] := by decide +kernel
  have heading : config.heading.flatMap lineText = countText config.tasks.length ++ (interruptText config.interruptId ++
      (irqsDeclText config.irqs ++
        tokens "pub static MOTH_TASK_DESCS: [abi::TaskDesc; MOTH_TASK_COUNT] = [".toList)) := by
    have split : config.heading = "// See build.rs for details" :: config.heading.tail := rfl
    rw [split, List.flatMap_cons, comment, List.nil_append,
      flatMap_lineText_of_not_mem (config.not_mem_heading (.inr rfl))]
    change [_, _, _, _].flatMap _ = _
    simp only [List.flatMap_cons, List.flatMap_nil, List.append_nil, tokens_countLine, tokens_interruptLine,
      tokens_irqsLine]
  have lined : tokens config.code = config.lines.flatMap lineText := by
    rw [KernelConfig.code_eq_flatMap single, tokens_flatMap, List.flatMap_map]
    rfl
  rw [lined, KernelConfig.lines_eq, List.flatMap_append, List.flatMap_append, heading, flatMap_tasks single,
    List.flatMap_singleton, closing, opening]
  simp [descsText, declarationText, arrayText, KernelConfig.descs, pathTail]

theorem reads_count (count : Nat) :
    Reads readDeclaration? (countText count) ⟨"MOTH_TASK_COUNT", .path ["usize"], .number count⟩ :=
  reads_declaration (.inl rfl) (fun rest => readType?_path rest) (reads_number (isNumeral_decimal count))

theorem reads_interrupt (id : TaskId) :
    Reads readDeclaration? (interruptText id) ⟨"MOTH_INTERRUPT_TASK", .path ["abi", "TaskId"], taskIdExpr id⟩ := by
  refine reads_declaration (.inl rfl) (fun rest => readType?_path rest) (reads_argument ?_ "TaskId")
  unfold signedText
  split
  · exact reads_negative (isNumeral_decimal _)
  · exact reads_number (isNumeral_decimal _)

theorem reads_irqs (irqs : List UInt32) :
    Reads readDeclaration? (irqsDeclText irqs) ⟨"MOTH_INTERRUPT_IRQS", .array ["u32"] (.number irqs.length),
      .array (irqs.map fun irq => .number irq.toNat)⟩ := by
  refine reads_declaration (.inr rfl) (fun rest => ?_) (reads_array fun rest => ?_)
  · exact readType?_array (fun rest => (reads_number (isNumeral_decimal irqs.length)).reads _) _
  · rw [List.append_assoc, List.singleton_append]
    exact readListed?_separated (fun irq _ => reads_number (isNumeral_decimal irq.toNat)) (by decide) rest

theorem reads_descs (descs : List TaskDesc) :
    Reads readDeclaration? (descsText descs) ⟨"MOTH_TASK_DESCS", .array ["abi", "TaskDesc"] (.path ["MOTH_TASK_COUNT"]),
      .array (descs.map descExpr)⟩ := by
  refine reads_declaration (.inr rfl) (fun rest => ?_) (reads_array fun rest => ?_)
  · exact readType?_array (fun rest => rfl) _
  · rw [List.append_assoc, List.singleton_append]
    exact readListed?_terminated (fun desc _ => reads_desc desc) (by decide) rest

/-- The text of a table is read as its declarations. -/
theorem declarations?_tableText {config : KernelConfig} (single : ∀ task ∈ config.tasks, '\n' ∉ task.name.toList) :
    declarations? config.tableText.toList = some (declarations config) := by
  have each : List.Forall₂ (Reads readDeclaration?) [countText config.tasks.length, interruptText config.interruptId,
      irqsDeclText config.irqs, descsText config.descs] (declarations config) :=
    .cons (reads_count _) (.cons (reads_interrupt _) (.cons (reads_irqs _) (.cons (reads_descs _) .nil)))
  change readDeclarations? ((tokens config.code).length + 1) (tokens config.code) = _
  rw [tokens_code single]
  refine readDeclarations?_flatten each ?_
  simp only [declarations, countText, interruptText, irqsDeclText, descsText, declarationText, List.flatten_cons,
    List.length_cons, List.length_append, List.length_nil]
  omega

end Listing

namespace KernelConfig

/-- The id of the interrupt task is its place, or minus one. -/
theorem toInt_interruptId {config : KernelConfig} (small : ∀ place, config.interruptTask = some place → place.toNat < 128) :
    config.interruptId.val.toInt = config.interruptTask.elim (-1 : Int) fun place => place.toNat := by
  cases configured : config.interruptTask with
  | none => rw [interruptId_of_none configured]; rfl
  | some place =>
    have every : ∀ index : Fin 128, (TaskId.ofIndex index.val).val.toInt = index.val := by decide +kernel
    rw [interruptId_of_some configured]
    exact every ⟨place.toNat, small place configured⟩

/-- The source text of a configuration says what the configuration says: how many tasks there are, which of them minds
the interrupts, the interrupt lines, and the table that the kernel runs. -/
theorem listed {config : KernelConfig} (single : ∀ task ∈ config.tasks, '\n' ∉ task.name.toList)
    (small : ∀ place, config.interruptTask = some place → place.toNat < 128) :
    ∃ id : TaskId, id.val.toInt = (config.interruptTask.elim (-1 : Int) fun place => place.toNat) ∧
      Listing.ofText? config.tableText = some ⟨config.tasks.length, id, config.irqs, config.descs⟩ := by
  refine ⟨config.interruptId, toInt_interruptId small, ?_⟩
  rw [Listing.ofText?, Listing.declarations?_tableText single, Option.bind_some, Listing.ofDeclarations?_declarations]

/-- The demo is compiled as it is configured. -/
theorem listed_demo : ∃ id : TaskId, id.val.toInt = 0 ∧
    Listing.ofText? Demo.config.tableText = some ⟨4, id, [8], Demo.config.descs⟩ := by
  have single : ∀ task ∈ Demo.config.tasks, '\n' ∉ task.name.toList := by decide
  have small : ∀ place, Demo.config.interruptTask = some place → place.toNat < 128 := by
    rintro place ⟨⟩
    decide
  exact listed single small

end KernelConfig

end CoopKernel
