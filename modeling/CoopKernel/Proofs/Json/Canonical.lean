import Mathlib.Data.List.Nodup
import CoopKernel.Json.Form
import CoopKernel.Proofs.Json.Grammar
import CoopKernel.Proofs.Kernel.Stepping

/-! # The JSON form is canonical

Each shared type is read back from its compact text, and one value has many other texts: the members of an
object in any order with unknown ones among them, all fields in an array, the name of a variant in an
object, blanks between the signs. `Restates` says which JSON values stand for the one that is written, and
`canonical` that all their texts are read as the value. So writing what was read gives one text for each value,
and writing again changes nothing.

A form is lawful (`LawfulJsonForm`) if its compact text is spelled as the grammar has it, and whatever restates
the value that is written is read as it. A record is lawful if its fields are; they are looked up by name, and
each name is found once (`fields?_of_restates`).
-/

namespace CoopKernel.JsonForm

open Datum

/-! ## Other values that say the same -/

/-- A JSON value says the same as the one that is written. -/
inductive Restates : Datum → Datum → Prop where
  | same {datum : Datum} : Restates datum datum
  | variant {name : String} : Restates (.object [(some name, .null)]) (.text name)
  /-- The fields, their values restated, in any order, with members of other names among them. -/
  | members {fields known : List (String × Datum)} {members others : List (Option String × Datum)}
      (named : known.map (·.1) = fields.map (·.1))
      (each : List.Forall₂ Restates (known.map (·.2)) (fields.map (·.2)))
      (listed : members.Perm (membersOf known ++ others))
      (unknown : ∀ member ∈ others, ∃ name, member.1 = some name ∧ name ∉ fields.map (·.1)) :
      Restates (.object members) (.object (membersOf fields))
  /-- The values of the fields, restated, in their order. -/
  | items {fields : List (String × Datum)} {given : List Datum}
      (each : List.Forall₂ Restates given (fields.map (·.2))) : Restates (.array given) (.object (membersOf fields))

theorem restates_integer {datum : Datum} {value : Int} (restated : Restates datum (.integer value)) :
    datum = .integer value := by
  cases restated
  rfl

/-- A name is restated as a variant of that name. -/
theorem variantName?_of_restates {datum : Datum} {name : String} (restated : Restates datum (.text name)) :
    variantName? datum = some name := by
  cases restated with
  | same => rfl
  | variant => rfl

/-! ## Fields of records -/

theorem membersOf_injective : Function.Injective membersOf := by
  refine List.map_injective_iff.mpr fun first second same => ?_
  obtain ⟨sameName, sameItem⟩ := Prod.mk.inj same
  exact Prod.ext (Option.some.inj sameName) sameItem

/-- In a list where no key comes twice, a key selects its own entry. -/
theorem filter_key {α β : Type} [BEq α] [LawfulBEq α] {entries : List (α × β)} (distinct : (entries.map (·.1)).Nodup)
    {key : α} {value : β} (member : (key, value) ∈ entries) : entries.filter (·.1 == key) = [(key, value)] := by
  induction entries with
  | nil => cases member
  | cons entry rest ih =>
    rw [List.map_cons, List.nodup_cons] at distinct
    obtain ⟨fresh, distinct⟩ := distinct
    rcases List.mem_cons.mp member with rfl | later
    · have none : rest.filter (·.1 == key) = [] := by
        refine List.filter_eq_nil_iff.mpr fun other isOther same => fresh ?_
        exact List.mem_map.mpr ⟨other, isOther, beq_iff_eq.mp same⟩
      rw [List.filter_cons, if_pos (beq_self_eq_true key), none]
    · have apart : ¬(entry.1 == key) = true := fun same =>
        fresh (List.mem_map.mpr ⟨_, later, (beq_iff_eq.mp same).symm⟩)
      rw [List.filter_cons, if_neg apart, ih distinct later]

/-- A field is found by its name wherever it stands, as long as its name comes once. -/
theorem onlyMember?_of_perm {known : List (String × Datum)} (distinct : (known.map (·.1)).Nodup)
    {members others : List (Option String × Datum)} (listed : members.Perm (membersOf known ++ others))
    (unknown : ∀ member ∈ others, ∃ name, member.1 = some name ∧ name ∉ known.map (·.1)) {field : String × Datum}
    (isKnown : field ∈ known) : onlyMember? members field.1 = some field.2 := by
  have distinctKeys : ((membersOf known).map (·.1)).Nodup := by
    have keys : (membersOf known).map (·.1) = (known.map (·.1)).map some := by
      simp only [membersOf, List.map_map, Function.comp_def]
    rw [keys]
    exact List.Nodup.map (fun _ _ same => Option.some.inj same) distinct
  have here : (some field.1, field.2) ∈ membersOf known := List.mem_map_of_mem isKnown
  have noOther : others.filter (·.1 == some field.1) = [] := by
    refine List.filter_eq_nil_iff.mpr fun member isOther same => ?_
    obtain ⟨name, nameEq, isUnknown⟩ := unknown member isOther
    rw [nameEq, beq_iff_eq, Option.some.injEq] at same
    rw [same] at isUnknown
    exact isUnknown (List.mem_map_of_mem isKnown)
  have found : members.filter (·.1 == some field.1) = [(some field.1, field.2)] := by
    have selected := listed.filter (·.1 == some field.1)
    rw [List.filter_append, filter_key distinctKeys here, noOther, List.append_nil] at selected
    exact List.perm_singleton.mp selected
  rw [onlyMember?, found]

/-- An object whose members are named fields and unknown members is read as the values of the fields. -/
theorem fields?_of_perm {known : List (String × Datum)} (distinct : (known.map (·.1)).Nodup)
    {members others : List (Option String × Datum)} (listed : members.Perm (membersOf known ++ others))
    (unknown : ∀ member ∈ others, ∃ name, member.1 = some name ∧ name ∉ known.map (·.1)) :
    fields? (known.map (·.1)) (.object members) = some (known.map (·.2)) := by
  have allNamed : members.all (·.1.isSome) = true := by
    refine List.all_eq_true.mpr fun member isMember => ?_
    rcases List.mem_append.mp (listed.mem_iff.mp isMember) with isKnown | isOther
    · obtain ⟨field, -, rfl⟩ := List.mem_map.mp isKnown
      rfl
    · obtain ⟨name, nameEq, -⟩ := unknown member isOther
      rw [nameEq, Option.isSome_some]
  have found : List.Forall₂ (fun name item => onlyMember? members name = some item) (known.map (·.1)) (known.map (·.2)) :=
    List.forall₂_map_left_iff.mpr (List.forall₂_map_right_iff.mpr (List.forall₂_same.mpr fun field isKnown =>
      onlyMember?_of_perm distinct listed unknown isKnown))
  rw [fields?, if_pos allNamed]
  exact mapM_of_forall₂ found

/-- The fields of a record are found, whichever way the record is restated. -/
theorem fields?_of_restates (names : List String) (distinct : names.Nodup) {fields : List (String × Datum)}
    (named : fields.map (·.1) = names) {datum : Datum} (restated : Restates datum (ofFields fields)) :
    ∃ given, fields? names datum = some given ∧ List.Forall₂ Restates given (fields.map (·.2)) := by
  subst named
  generalize targetEq : ofFields fields = target at restated
  cases restated with
  | same =>
    subst targetEq
    refine ⟨fields.map (·.2), ?_, List.forall₂_same.mpr fun _ _ => .same⟩
    exact fields?_of_perm distinct (List.append_nil _ ▸ .rfl) (List.forall_mem_nil _)
  | variant => cases targetEq
  | @members _ known members others named each listed unknown =>
    cases membersOf_injective (Datum.object.inj targetEq)
    rw [← named] at distinct unknown ⊢
    exact ⟨known.map (·.2), fields?_of_perm distinct listed unknown, each⟩
  | @items _ given each =>
    cases membersOf_injective (Datum.object.inj targetEq)
    have all : given.length = (fields.map (·.1)).length := by
      rw [each.length_eq, List.length_map, List.length_map]
    exact ⟨given, by rw [fields?, if_pos all], each⟩

/-! ## Forms that are read back -/

/-- A form whose values are spelled as they are written, and read from whatever restates what is written. -/
class LawfulJsonForm (α : Type) [JsonForm α] : Prop where
  spells_print : ∀ value : α, Spells (toDatum value) (toDatum value).print
  ofDatum?_of_restates : ∀ {value : α} {datum : Datum}, Restates datum (toDatum value) → ofDatum? datum = some value

open LawfulJsonForm

theorem integerWithin?_of_restates {datum : Datum} {value least greatest : Int} (atLeast : least ≤ value)
    (atMost : value ≤ greatest) (restated : Restates datum (.integer value)) :
    integerWithin? least greatest datum = some value := by
  rw [restates_integer restated, integerWithin?, if_pos ⟨atLeast, atMost⟩]

/-- The same for a number that is read from the natural number it is written as. -/
theorem naturalWithin?_of_restates {α : Type} (build : Nat → α) {datum : Datum} {number : Nat} {greatest : Int}
    (atMost : (number : Int) ≤ greatest) (restated : Restates datum (.integer number)) :
    ((integerWithin? 0 greatest datum).map fun value => build value.toNat) = some (build number) := by
  rw [integerWithin?_of_restates (Int.natCast_nonneg number) atMost restated, Option.map_some, Int.toNat_natCast]

theorem spells_ofFields {fields : List (String × Datum)} (occupied : fields ≠ [])
    (spelled : ∀ field ∈ fields, Spells field.2 field.2.print) : Spells (ofFields fields) (ofFields fields).print := by
  have compact : (ofFields fields).print = '{' :: ([] ++ (commas (printMembers (membersOf fields)) ++ ['}'])) := rfl
  rw [compact]
  exact .object blanks_nil (spellsMembers_print occupied spelled)

instance : LawfulJsonForm TaskId where
  spells_print id := .integer id.val.toInt
  ofDatum?_of_restates {id datum} restated := by
    have found : integerWithin? (-128) 127 datum = some id.val.toInt :=
      integerWithin?_of_restates id.val.le_toInt id.val.toInt_le restated
    change (integerWithin? (-128) 127 datum).map _ = _
    rw [found, Option.map_some, Int8.ofInt_toInt]

instance : LawfulJsonForm UInt32 where
  spells_print word := .integer word.toNat
  ofDatum?_of_restates {word datum} restated := by
    have small : (word.toNat : Int) ≤ 0xffffffff := by
      have bound := word.toNat_lt
      omega
    have found := naturalWithin?_of_restates UInt32.ofNat small restated
    rwa [UInt32.ofNat_toNat] at found

instance : LawfulJsonForm TaskMask where
  spells_print mask := spells_print mask.bits
  ofDatum?_of_restates {mask datum} restated := by
    have found : ofDatum? datum = some mask.bits := ofDatum?_of_restates restated
    change (ofDatum? datum).map TaskMask.mk = _
    rw [found, Option.map_some]

instance : LawfulJsonForm Priority where
  spells_print priority := .integer priority.level.toNat
  ofDatum?_of_restates {priority datum} restated := by
    have small : (priority.level.toNat : Int) ≤ 255 := by
      have bound := priority.level.toNat_lt
      omega
    have found := naturalWithin?_of_restates (fun number => Priority.mk (UInt8.ofNat number)) small restated
    rwa [UInt8.ofNat_toNat] at found

instance {width : Width} : LawfulJsonForm (Message width) where
  spells_print message := .integer message.toNat
  ofDatum?_of_restates {message datum} restated := by
    have small : message.toNat ≤ (BitVec.allOnes width.bits).toNat := by
      rw [BitVec.toNat_allOnes]
      exact Nat.le_sub_one_of_lt message.isLt
    have found := naturalWithin?_of_restates (BitVec.ofNat width.bits) (Int.ofNat_le.mpr small) restated
    rwa [BitVec.ofNat_toNat, BitVec.setWidth_eq] at found

instance : LawfulJsonForm MailError where
  spells_print error := .text error.name
  ofDatum?_of_restates {error datum} restated := by
    change (variantName? datum).bind MailError.ofName? = _
    rw [variantName?_of_restates restated, Option.bind_some]
    cases error <;> decide

instance : LawfulJsonForm SectionKind where
  spells_print kind := .text (kindName kind)
  ofDatum?_of_restates {kind datum} restated := by
    change (variantName? datum).bind _ = _
    rw [variantName?_of_restates restated, Option.bind_some]
    cases kind <;> decide

instance {width : Width} : LawfulJsonForm (Entry width) where
  spells_print entry := by
    refine spells_ofFields (List.cons_ne_nil _ _) ?_
    simp only [List.forall_mem_cons]
    exact ⟨spells_print entry.sender, spells_print entry.message, List.forall_mem_nil _⟩
  ofDatum?_of_restates {entry datum} restated := by
    obtain ⟨_, found, _ | ⟨sender, _ | ⟨message, _ | _⟩⟩⟩ :=
      fields?_of_restates ["sender", "msg"] (by decide) (by rfl) restated
    change (match fields? ["sender", "msg"] datum with
      | some [sender, message] => (return ⟨← ofDatum? sender, ← ofDatum? message⟩ : Option (Entry width))
      | _ => none) = _
    rw [found]
    dsimp only
    rw [ofDatum?_of_restates sender, ofDatum?_of_restates message]
    rfl

instance : LawfulJsonForm Section where
  spells_print region := by
    refine spells_ofFields (List.cons_ne_nil _ _) ?_
    simp only [List.forall_mem_cons]
    exact ⟨spells_print region.address, spells_print region.size, List.forall_mem_nil _⟩
  ofDatum?_of_restates {region datum} restated := by
    obtain ⟨_, found, _ | ⟨address, _ | ⟨size, _ | _⟩⟩⟩ :=
      fields?_of_restates ["virtual_address", "size"] (by decide) (by rfl) restated
    change (match fields? ["virtual_address", "size"] datum with
      | some [address, size] => (return ⟨← ofDatum? address, ← ofDatum? size⟩ : Option Section)
      | _ => none) = _
    rw [found]
    dsimp only
    rw [ofDatum?_of_restates address, ofDatum?_of_restates size]
    rfl

instance : LawfulJsonForm TaskDesc where
  spells_print desc := by
    refine spells_ofFields (List.cons_ne_nil _ _) ?_
    simp only [List.forall_mem_cons]
    exact ⟨spells_print desc.priority, spells_print desc.permission, spells_print desc.text, spells_print desc.bss,
      spells_print desc.stack, List.forall_mem_nil _⟩
  ofDatum?_of_restates {desc datum} restated := by
    obtain ⟨_, found, _ | ⟨priority, _ | ⟨permission, _ | ⟨text, _ | ⟨bss, _ | ⟨stack, _ | _⟩⟩⟩⟩⟩⟩ :=
      fields?_of_restates ["priority", "mailbox_permission", "text", "bss", "stack"] (by decide) (by rfl) restated
    change (match fields? ["priority", "mailbox_permission", "text", "bss", "stack"] datum with
      | some [priority, permission, text, bss, stack] => (return ⟨← ofDatum? priority, ← ofDatum? permission,
          ← ofDatum? text, ← ofDatum? bss, ← ofDatum? stack⟩ : Option TaskDesc)
      | _ => none) = _
    rw [found]
    dsimp only
    rw [ofDatum?_of_restates priority, ofDatum?_of_restates permission, ofDatum?_of_restates text,
      ofDatum?_of_restates bss, ofDatum?_of_restates stack]
    rfl

/-! ## Canonical texts -/

/-- The compact text of what a text holds. -/
def rewrite? (α : Type) [JsonForm α] (text : String) : Option String := (read? text : Option α).map print

/-- Each value has one text that is written, and many that are read. -/
structure Canonical (α : Type) [JsonForm α] : Prop where
  /-- A value is read back from its compact text. -/
  read?_print : ∀ value : α, read? (print value) = some value
  /-- Every text that is read is rewritten to one that holds the same value, and that is not changed any more. -/
  rewrite?_fixed : ∀ text (value : α), read? text = some value →
    ∃ compact, rewrite? α text = some compact ∧ read? compact = some value ∧ rewrite? α compact = some compact
  /-- Every layout of every JSON value that restates a value is read as it. -/
  read?_of_restates : ∀ {value : α} {datum : Datum} {text before behind : List Char}, Restates datum (toDatum value) →
    Spells datum text → Blanks before → Blanks behind →
      read? (String.ofList (before ++ (text ++ behind))) = some value

/-- A lawful form is canonical. -/
theorem canonical_of_lawful (α : Type) [JsonForm α] [LawfulJsonForm α] : Canonical α := by
  have layout : ∀ {value : α} {datum : Datum} {text before behind : List Char}, Restates datum (toDatum value) →
      Spells datum text → Blanks before → Blanks behind →
        read? (String.ofList (before ++ (text ++ behind))) = some value := by
    intro value datum text before behind restated spelled blankBefore blankBehind
    rw [read?, String.toList_ofList, read?_of_spells spelled blankBefore blankBehind, Option.bind_some]
    exact ofDatum?_of_restates restated
  have back : ∀ value : α, read? (print value) = some value := by
    intro value
    have compact := layout .same (spells_print value) blanks_nil blanks_nil
    rwa [List.nil_append, List.append_nil] at compact
  refine ⟨back, fun text value found => ⟨print value, ?_, back value, ?_⟩, layout⟩
  · rw [rewrite?, found, Option.map_some]
  · rw [rewrite?, back, Option.map_some]

/-- The forms of the types that tasks and kernel share are canonical, at every width of messages. -/
theorem canonical (width : Width) :
    Canonical TaskId ∧ Canonical TaskMask ∧ Canonical Priority ∧ Canonical MailError ∧ Canonical SectionKind ∧
      Canonical (Entry width) ∧ Canonical Section ∧ Canonical TaskDesc :=
  ⟨canonical_of_lawful _, canonical_of_lawful _, canonical_of_lawful _, canonical_of_lawful _, canonical_of_lawful _,
    canonical_of_lawful _, canonical_of_lawful _, canonical_of_lawful _⟩

/-- Blanks, a member that is not known and the order of the members are gone after one rewriting. -/
example : rewrite? Section "\x7b \"size\": 64, \"note\": [], \"virtual_address\": 32 \x7d" =
    some "\x7b\"virtual_address\":32,\"size\":64\x7d" := by
  decide +kernel

end CoopKernel.JsonForm
