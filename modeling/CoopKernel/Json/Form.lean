import CoopKernel.Json.Reader
import CoopKernel.Mail.Error
import CoopKernel.Mail.Message
import CoopKernel.Task.Desc

/-! # The JSON form of the types that tasks and kernel share

Ids, masks and priorities are bare integers in range; error and section kinds are their names;
entries, sections and descriptions are objects. An object's members come in any order, and members it
does not know are passed over; an array of all fields in order reads as the object too. Writing gives
the fields in their order.
-/

namespace CoopKernel

class JsonForm (α : Type) where
  toDatum : α → Datum
  ofDatum? : Datum → Option α

namespace JsonForm

def print {α : Type} [JsonForm α] (value : α) : String := String.ofList (toDatum value).print

def read? {α : Type} [JsonForm α] (text : String) : Option α := (Datum.read? text.toList).bind ofDatum?

/-- The integer of a value, if it lies in a range with both ends. -/
def integerWithin? (least greatest : Int) : Datum → Option Int
  | .integer value => if least ≤ value ∧ value ≤ greatest then some value else none
  | _ => none

/-- The only member with a name; a member that comes twice is an error. -/
def onlyMember? (members : List (Option String × Datum)) (name : String) : Option Datum :=
  match members.filter (·.1 == some name) with
  | [(_, value)] => some value
  | _ => none

/-- The values of named fields, from an object or from an array of all of them in order. -/
def fields? (names : List String) : Datum → Option (List Datum)
  | .object members =>
      if members.all (·.1.isSome) then names.mapM (onlyMember? members) else none
  | .array items => if items.length = names.length then some items else none
  | _ => none

def ofFields (fields : List (String × Datum)) : Datum :=
  .object (fields.map fun (name, value) => (some name, value))

/-- The name that a variant is given by: a text, or an object that maps it to null. -/
def variantName? : Datum → Option String
  | .text name => some name
  | .object [(some name, .null)] => some name
  | _ => none

instance : JsonForm TaskId where
  toDatum id := .integer id.val.toInt
  ofDatum? datum := (integerWithin? (-128) 127 datum).map fun value => ⟨Int8.ofInt value⟩

instance : JsonForm UInt32 where
  toDatum word := .integer word.toNat
  ofDatum? datum := (integerWithin? 0 0xffffffff datum).map fun value => UInt32.ofNat value.toNat

instance : JsonForm TaskMask where
  toDatum mask := toDatum mask.bits
  ofDatum? datum := (ofDatum? datum).map TaskMask.mk

instance : JsonForm Priority where
  toDatum priority := .integer priority.level.toNat
  ofDatum? datum := (integerWithin? 0 255 datum).map fun value => ⟨UInt8.ofNat value.toNat⟩

instance : JsonForm MailError where
  toDatum error := .text error.name
  ofDatum? datum := (variantName? datum).bind MailError.ofName?

def kindName : SectionKind → String
  | .text => "Text"
  | .bss => "Bss"
  | .stack => "Stack"

instance : JsonForm SectionKind where
  toDatum kind := .text (kindName kind)
  ofDatum? datum := (variantName? datum).bind fun name => SectionKind.all.find? (kindName · == name)

instance {width : Width} : JsonForm (Message width) where
  toDatum message := .integer message.toNat
  ofDatum? datum :=
    (integerWithin? 0 (BitVec.allOnes width.bits).toNat datum).map fun value => BitVec.ofNat width.bits value.toNat

instance {width : Width} : JsonForm (Entry width) where
  toDatum entry := ofFields [("sender", toDatum entry.sender), ("msg", toDatum entry.message)]
  ofDatum? datum :=
    match fields? ["sender", "msg"] datum with
    | some [sender, message] => return ⟨← ofDatum? sender, ← ofDatum? message⟩
    | _ => none

instance : JsonForm Section where
  toDatum region := ofFields [("virtual_address", toDatum region.address), ("size", toDatum region.size)]
  ofDatum? datum :=
    match fields? ["virtual_address", "size"] datum with
    | some [address, size] => return ⟨← ofDatum? address, ← ofDatum? size⟩
    | _ => none

instance : JsonForm TaskDesc where
  toDatum desc := ofFields [("priority", toDatum desc.priority),
    ("mailbox_permission", toDatum desc.permission), ("text", toDatum desc.text),
    ("bss", toDatum desc.bss), ("stack", toDatum desc.stack)]
  ofDatum? datum :=
    match fields? ["priority", "mailbox_permission", "text", "bss", "stack"] datum with
    | some [priority, permission, text, bss, stack] =>
        return ⟨← ofDatum? priority, ← ofDatum? permission, ← ofDatum? text, ← ofDatum? bss, ← ofDatum? stack⟩
    | _ => none

end JsonForm

end CoopKernel
