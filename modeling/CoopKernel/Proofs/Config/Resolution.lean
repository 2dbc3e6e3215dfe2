import Mathlib.Data.List.Nodup
import CoopKernel.Config.Resolve
import CoopKernel.Config.TableText
import CoopKernel.Proofs.Kernel.Stepping

/-! # What a resolved application says

Senders and the interrupt task are written as names, kept as bits and places, and read as ids. Names in
an application are distinct, so a name leads back to the one place that has it (`index?_eq_some_iff`),
and `contains_permission` says of whole lists of senders, in any order and with repetitions, whom they
admit. `resolve_ok_iff` takes resolution apart into what is asked of the tasks and of the whole, and
`Resolved.describes` puts together what comes of it: the table of a resolved application says of each task
what the application says of the task of that place, and has nothing that a kernel would refuse.
-/

namespace CoopKernel.App

variable {app : App} {config : KernelConfig}

def nameAt (app : App) (place : Fin app.tasks.length) : String := (app.tasks.get place).1

def taskAt (app : App) (place : Fin app.tasks.length) : AppTask := (app.tasks.get place).2

/-- Whether a task names another among its senders, or names everyone. -/
def Admits (app : App) (receiver sender : Fin app.tasks.length) : Prop :=
  anySender ∈ (app.taskAt receiver).senders ∨ app.nameAt sender ∈ (app.taskAt receiver).senders

instance (receiver sender : Fin app.tasks.length) : Decidable (app.Admits receiver sender) :=
  inferInstanceAs (Decidable (_ ∨ _))

/-! ## Names and places -/

theorem nameAt_inj {a b : Fin app.tasks.length} (same : app.nameAt a = app.nameAt b) : a = b := by
  have entryEq : app.tasks.get a = app.tasks.get b :=
    List.inj_on_of_nodup_map app.distinct (List.get_mem ..) (List.get_mem ..) same
  exact (app.distinct.of_map).get_inj_iff.mp entryEq

/-- A name leads to the task that has it. -/
theorem index?_eq_some_iff {name : String} {index : Nat} :
    app.index? name = some index ↔ ∃ place : Fin app.tasks.length, place.val = index ∧ app.nameAt place = name := by
  rw [index?, List.findIdx?_eq_some_iff_getElem]
  constructor
  · rintro ⟨inside, named, -⟩
    exact ⟨⟨index, inside⟩, rfl, beq_iff_eq.mp named⟩
  · rintro ⟨place, rfl, rfl⟩
    refine ⟨place.isLt, beq_self_eq_true _, fun earlier before named => ?_⟩
    -- names are distinct, so no earlier task can have this one
    have same := @nameAt_inj app ⟨earlier, Nat.lt_trans before place.isLt⟩ place (beq_iff_eq.mp named)
    exact absurd (congrArg Fin.val same) (Nat.ne_of_lt before)

/-! ## Senders -/

theorem permission_cons_ok {name sender : String} {rest : List String} {mask : TaskMask}
    (found : app.permission name (sender :: rest) = .ok mask) :
    ∃ own others, app.senderMask? sender = some own ∧ app.permission name rest = .ok others ∧ mask = own ∪ others := by
  rw [permission] at found
  cases known : app.senderMask? sender with
  | none =>
    rw [known] at found
    cases found
  | some own =>
    cases later : app.permission name rest with
    | error error =>
      rw [known, later] at found
      cases found
    | ok others =>
      rw [known, later] at found
      cases found
      exact ⟨own, others, rfl, rfl, rfl⟩

/-- One sender admits everyone, or the task that it names. -/
theorem contains_senderMask? {sender : String} {mask : TaskMask} (small : app.tasks.length ≤ maxTasks)
    (known : app.senderMask? sender = some mask) {index : Nat} (bound : index < maxTasks) :
    mask.contains (.ofIndex index) = true ↔ anySender = sender ∨ app.index? sender = some index := by
  unfold senderMask? at known
  split at known
  · next any =>
    cases known
    simp [TaskMask.contains_full bound, any]
  · next notAny =>
    obtain ⟨named, found, rfl⟩ := Option.map_eq_some_iff.mp known
    obtain ⟨place, rfl, -⟩ := index?_eq_some_iff.mp found
    rw [TaskMask.contains_ofPlace (Nat.lt_of_lt_of_le place.isLt small),
      TaskId.index?_ofIndex (Nat.lt_trans bound (by decide)), beq_iff_eq, found, Option.some.injEq, Option.some.injEq,
      eq_comm, or_iff_right fun any => notAny any.symm]

/-- The bits of a list of senders are those of the tasks that its names lead to, or all of them. -/
theorem contains_permission_iff {name : String} {senders : List String} {mask : TaskMask}
    (small : app.tasks.length ≤ maxTasks) (found : app.permission name senders = .ok mask) {index : Nat}
    (bound : index < maxTasks) :
    mask.contains (.ofIndex index) = true ↔
      anySender ∈ senders ∨ ∃ sender ∈ senders, app.index? sender = some index := by
  induction senders generalizing mask with
  | nil =>
    cases found
    simp [TaskMask.contains_empty]
  | cons sender rest ih =>
    obtain ⟨own, others, known, later, rfl⟩ := permission_cons_ok found
    rw [TaskMask.contains_union, Bool.or_eq_true, contains_senderMask? small known bound, ih later, List.mem_cons,
      List.exists_mem_cons_iff]
    tauto

theorem exists_index?_eq_iff {senders : List String} (place : Fin app.tasks.length) :
    (∃ sender ∈ senders, app.index? sender = some place.val) ↔ app.nameAt place ∈ senders := by
  constructor
  · rintro ⟨sender, member, found⟩
    obtain ⟨same, placeEq, rfl⟩ := index?_eq_some_iff.mp found
    exact Fin.ext placeEq ▸ member
  · exact fun member => ⟨app.nameAt place, member, index?_eq_some_iff.mpr ⟨place, rfl, rfl⟩⟩

/-- The bits of a list of senders are those of the tasks that it admits. -/
theorem contains_permission {name : String} {senders : List String} {mask : TaskMask}
    (small : app.tasks.length ≤ maxTasks) (found : app.permission name senders = .ok mask)
    (place : Fin app.tasks.length) :
    mask.contains (.ofIndex place) = true ↔ anySender ∈ senders ∨ app.nameAt place ∈ senders := by
  rw [contains_permission_iff small found (Nat.lt_of_lt_of_le place.isLt small), exists_index?_eq_iff]

/-! ## Tasks -/

/-- A task of a configuration that was made of one of an application. -/
structure Resolves (app : App) (entry : String × AppTask) (task : TaskConfig) : Prop where
  name_eq : task.name = entry.1
  priority_eq : task.priority = entry.2.priority
  permission_eq : app.permission entry.1 entry.2.senders = .ok task.permission
  region_eq : ∀ kind, task.desc.region kind = entry.2.region kind
  sections : ∀ kind, (entry.2.region kind).isEmpty = false ∧ (entry.2.region kind).isBounded = true

theorem sectionError?_eq_none_iff {name : String} {task : AppTask} {kind : SectionKind} :
    sectionError? name task kind = none ↔
      (task.region kind).isEmpty = false ∧ (task.region kind).isBounded = true := by
  unfold sectionError?
  dsimp only
  cases (task.region kind).isEmpty <;> cases (task.region kind).isBounded <;> simp

/-- A task is made of an application's exactly if its senders are known and nothing is wrong with its sections. -/
theorem resolveTask_ok_iff {entry : String × AppTask} {task : TaskConfig} :
    app.resolveTask entry = .ok task ↔ app.Resolves entry task := by
  obtain ⟨name, declared⟩ := entry
  have sound : SectionKind.all.findSome? (sectionError? name declared) = none ↔
      ∀ kind, (declared.region kind).isEmpty = false ∧ (declared.region kind).isBounded = true := by
    rw [List.findSome?_eq_none_iff]
    exact forall_congr' fun kind =>
      (imp_iff_right (by cases kind <;> decide)).trans sectionError?_eq_none_iff
  unfold resolveTask
  dsimp only [bind, Except.bind]
  constructor
  · intro resolved
    cases known : app.permission name declared.senders with
    | error error =>
      rw [known] at resolved
      cases resolved
    | ok mask =>
      cases faulty : SectionKind.all.findSome? (sectionError? name declared) with
      | some error =>
        rw [known, faulty] at resolved
        cases resolved
      | none =>
        rw [known, faulty] at resolved
        cases resolved
        exact ⟨rfl, rfl, known, fun kind => by cases kind <;> rfl, sound.mp faulty⟩
  · intro resolves
    rw [resolves.permission_eq, sound.mpr resolves.sections]
    obtain ⟨ownName, priority, permission, text, bss, stack⟩ := task
    obtain rfl : ownName = name := resolves.name_eq
    obtain rfl : priority = declared.priority := resolves.priority_eq
    obtain rfl : text = declared.text := resolves.region_eq .text
    obtain rfl : bss = declared.bss := resolves.region_eq .bss
    obtain rfl : stack = declared.stack := resolves.region_eq .stack
    rfl

theorem Resolves.firstEmpty_eq {entry : String × AppTask} {task : TaskConfig} (resolves : app.Resolves entry task) :
    task.desc.firstEmpty = none := by
  rw [TaskDesc.firstEmpty, List.find?_eq_none]
  intro kind _
  rw [resolves.region_eq, (resolves.sections kind).1]
  exact Bool.false_ne_true

/-! ## Applications -/

/-- A configuration that was made of an application. -/
structure Resolved (app : App) (config : KernelConfig) : Prop where
  occupied : 0 < app.tasks.length
  small : app.tasks.length ≤ maxTasks
  tasks : List.Forall₂ app.Resolves app.tasks config.tasks
  interruptTask : app.resolveInterruptTask = .ok config.interruptTask
  irqs_eq : config.irqs = app.irqs

/-- Resolution finds the configuration that is made of an application, and finds nothing else. -/
theorem resolve_ok_iff : app.resolve = .ok config ↔ app.Resolved config := by
  have someTask : ¬ app.tasks.isEmpty = true ↔ 0 < app.tasks.length := by
    rw [List.isEmpty_iff, List.length_pos_iff]
  constructor
  · intro resolved
    unfold resolve at resolved
    split at resolved
    · cases resolved
    next occupied =>
    split at resolved
    · cases resolved
    next notTooMany =>
    cases answered : app.tasks.mapM app.resolveTask with
    | error error =>
      rw [answered] at resolved
      cases resolved
    | ok tasks =>
      cases placed : app.resolveInterruptTask with
      | error error =>
        rw [answered, placed] at resolved
        cases resolved
      | ok interruptTask =>
        rw [answered, placed] at resolved
        cases resolved
        exact ⟨someTask.mp occupied, Nat.le_of_not_lt notTooMany,
          (forall₂_of_mapM answered).imp fun _ _ => resolveTask_ok_iff.mp, placed, rfl⟩
  · intro resolved
    have answered : app.tasks.mapM app.resolveTask = .ok config.tasks :=
      mapM_of_forall₂ (resolved.tasks.imp fun _ _ => resolveTask_ok_iff.mpr)
    have irqsEq := resolved.irqs_eq
    rw [resolve, if_neg (someTask.mpr resolved.occupied), if_neg (Nat.not_lt.mpr resolved.small), answered,
      resolved.interruptTask, ← irqsEq]
    rfl

theorem resolve_ok (resolved : app.resolve = .ok config) : app.Resolved config := resolve_ok_iff.mp resolved

/-- What a table has to say of the tasks of an application. -/
structure Describes (app : App) (table : Vector TaskDesc app.tasks.length) : Prop where
  priority_eq : ∀ place, (table.get place).priority = (app.taskAt place).priority
  contains_iff : ∀ receiver sender : Fin app.tasks.length,
    (table.get receiver).permission.contains (.ofIndex sender) = true ↔ app.Admits receiver sender
  region_eq : ∀ place kind, (table.get place).region kind = (app.taskAt place).region kind
  firstEmpty_eq : ∀ place, (table.get place).firstEmpty = none

namespace Resolved

variable {table : Vector TaskDesc app.tasks.length}

/-- The configuration has a task for each of the application. -/
theorem exists_table (resolved : app.Resolved config) :
    ∃ table : Vector TaskDesc app.tasks.length, table.toList = config.descs := by
  refine ⟨⟨config.descs.toArray, ?_⟩, rfl⟩
  rw [List.size_toArray, KernelConfig.descs, List.length_map, resolved.tasks.length_eq]

theorem resolves (resolved : app.Resolved config) (tableEq : table.toList = config.descs)
    (place : Fin app.tasks.length) :
    ∃ task, app.Resolves (app.tasks.get place) task ∧ table.get place = task.desc := by
  obtain ⟨lengthEq, each⟩ := List.forall₂_iff_get.mp resolved.tasks
  have inside : place.val < config.tasks.length := lengthEq ▸ place.isLt
  refine ⟨config.tasks.get ⟨place.val, inside⟩, each place.val place.isLt inside, ?_⟩
  have listed : table.toList[place.val]? = some (table.get place) := by
    rw [Vector.getElem?_toList, Vector.getElem?_eq_getElem place.isLt]
    rfl
  rw [tableEq, KernelConfig.descs, List.getElem?_map, List.getElem?_eq_getElem inside] at listed
  exact (Option.some.inj listed).symm

theorem describes (resolved : app.Resolved config) (tableEq : table.toList = config.descs) : app.Describes table := by
  constructor
  · intro place
    obtain ⟨task, resolves, descEq⟩ := resolved.resolves tableEq place
    rw [descEq]
    exact resolves.priority_eq
  · intro receiver sender
    obtain ⟨task, resolves, descEq⟩ := resolved.resolves tableEq receiver
    rw [descEq]
    exact contains_permission resolved.small resolves.permission_eq sender
  · intro place kind
    obtain ⟨task, resolves, descEq⟩ := resolved.resolves tableEq place
    rw [descEq]
    exact resolves.region_eq kind
  · intro place
    obtain ⟨task, resolves, descEq⟩ := resolved.resolves tableEq place
    rw [descEq]
    exact resolves.firstEmpty_eq

/-- The interrupt task is at the place of the task which the application names, and nowhere without one. -/
theorem interruptTask_eq (resolved : app.Resolved config) :
    ∃ place : Option (Fin app.tasks.length), config.interruptTask.map UInt64.toNat = place.map Fin.val ∧
      place.map app.nameAt = app.interruptTask := by
  have answered := resolved.interruptTask
  unfold resolveInterruptTask at answered
  split at answered
  · next name isNamed =>
    split at answered
    · next index found =>
      obtain ⟨place, rfl, rfl⟩ := index?_eq_some_iff.mp found
      refine ⟨some place, ?_, isNamed.symm⟩
      have bound : place.val < UInt64.size := Nat.lt_of_lt_of_le place.isLt (Nat.le_trans resolved.small (by decide))
      rw [← Except.ok.inj answered, Option.map_some, UInt64.toNat_ofNat_of_lt' bound, Option.map_some]
    · cases answered
  · next unnamed =>
    split at answered
    · exact ⟨none, by rw [← Except.ok.inj answered, Option.map_none, Option.map_none], unnamed.symm⟩
    · cases answered

/-- The id of the interrupt task is that of the task which the application names, and nobody's without one. -/
theorem interruptId_eq (resolved : app.Resolved config) :
    ∃ place : Option (Fin app.tasks.length), config.interruptId = .ofPlace? place ∧
      place.map app.nameAt = app.interruptTask := by
  obtain ⟨place, placed, named⟩ := resolved.interruptTask_eq
  refine ⟨place, ?_, named⟩
  cases place with
  | none => exact KernelConfig.interruptId_of_none (Option.map_eq_none_iff.mp placed)
  | some place =>
    obtain ⟨word, configured, wordEq⟩ := Option.map_eq_some_iff.mp placed
    rw [KernelConfig.interruptId_of_some configured, wordEq]
    rfl

end Resolved

end CoopKernel.App
