import UptimeSync.Wire.Scalar

namespace UptimeSync.Wire

/-- What the value of a field has to be. Loosely typed kinds accept null for an absent value; a
strict kind brings its own condition. -/
inductive Kind where
  | int
  | flag
  | text
  | ints
  | texts
  | strict (check : Json → Except Fault Unit)

/-- Refuses a value that is not of a kind. -/
def Kind.check : Kind → Json → Except Fault Unit
  | int, v => v.looseOptInt.map fun _ => ()
  | flag, v => v.looseOptFlag.map fun _ => ()
  | text, v => v.looseOptText.map fun _ => ()
  | ints, v => v.looseInts.map fun _ => ()
  | texts, v => v.looseTexts.map fun _ => ()
  | strict check, v => check v

/-- A field of a record: the name it is written with, other spellings that are read, and what its
value has to be. -/
structure Slot where
  name : String
  kind : Kind
  aliases : List String := []

/-- Holds of the keys under which a slot is read. -/
def Slot.answersTo (slot : Slot) (key : String) : Bool :=
  slot.name == key || slot.aliases.contains key

/-- The fields of a record in the order of an array that lists them, and the record's name in
messages. -/
structure Schema where
  title : String
  slots : List Slot

/-- The values found for the slots of a record, by the slots' names. -/
structure Entries where
  members : Json.Members

namespace Entries

/-- The value of a slot; an absent one is null. -/
def value (e : Entries) (name : String) : Json :=
  (e.members.lookup name).getD .null

/-- The integer in a slot that has been checked to hold one, if it is present. -/
def optInt (e : Entries) (name : String) : Option Int64 :=
  (e.value name).looseOptInt.toOption.join

/-- The integer in a slot, zero if it is absent. -/
def int (e : Entries) (name : String) : Int64 :=
  (e.optInt name).getD 0

/-- The flag in a slot that has been checked to hold one, if it is present. -/
def optFlag (e : Entries) (name : String) : Option Bool :=
  (e.value name).looseOptFlag.toOption.join

/-- The flag in a slot, false if it is absent. -/
def flag (e : Entries) (name : String) : Bool :=
  (e.optFlag name).getD false

/-- The text in a slot that has been checked to hold one, if it is present. -/
def optText (e : Entries) (name : String) : Option String :=
  (e.value name).looseOptText.toOption.join

/-- The text in a slot, empty if it is absent. -/
def text (e : Entries) (name : String) : String :=
  (e.optText name).getD ""

/-- The integers in a slot that has been checked to hold a list of them. -/
def ints (e : Entries) (name : String) : List Int64 :=
  (e.value name).looseInts.toOption.getD []

/-- The texts in a slot that has been checked to hold a list of them. -/
def texts (e : Entries) (name : String) : List String :=
  (e.value name).looseTexts.toOption.getD []

/-- The items in a slot that has been checked to hold an array. -/
def items (e : Entries) (name : String) : List Json :=
  match e.value name with
  | .array items => items
  | _ => []

/-- The members in a slot that has been checked to hold an object. -/
def object (e : Entries) (name : String) : Json.Members :=
  match e.value name with
  | .object members => members
  | _ => []

end Entries

namespace Schema

/-- The slot that is read under a key. -/
def slot? (schema : Schema) (key : String) : Option Slot :=
  schema.slots.find? (·.answersTo key)

/-- Holds of the keys that belong to a slot. -/
def knows (schema : Schema) (key : String) : Bool :=
  (schema.slot? key).isSome

/-- The members of an object that belong to no slot. -/
def rest (schema : Schema) (members : Json.Members) : Json.Members :=
  members.filter fun entry => !schema.knows entry.1

/-- Checks the members of an object in their order. `seen` names the slots that were met before;
a slot met again is refused before its value is looked at. -/
def scan (schema : Schema) (seen : List String) : Json.Members → Except Fault Json.Members
  | [] => .ok []
  | (key, v) :: rest =>
    match schema.slot? key with
    | none => schema.scan seen rest
    | some slot =>
      if seen.contains slot.name then .error (.repeatedField slot.name)
      else do
        slot.kind.check v
        let checked ← schema.scan (slot.name :: seen) rest
        return (slot.name, v) :: checked

/-- The checked entries of an object. Members that belong to no slot are passed over. -/
def ofMembers (schema : Schema) (members : Json.Members) : Except Fault Entries :=
  (schema.scan [] members).map Entries.mk

/-- Pairs the items of an array with the slots in their order, checking each item. -/
def zipItems : List Slot → List Json → Except Fault Json.Members
  | slot :: slots, item :: items => do
    slot.kind.check item
    let checked ← zipItems slots items
    return (slot.name, item) :: checked
  | _, _ => .ok []

/-- The checked entries of an array that lists the fields of a record. Fields at the end may be
missing; `allowed` names in a message how many items there may be. -/
def ofItems (schema : Schema) (allowed : String) (items : List Json) : Except Fault Entries := do
  let checked ← zipItems schema.slots items
  if schema.slots.length < items.length then .error (.tooLong items.length allowed)
  return ⟨checked⟩

/-- The entries of a record that is written as an object or as an array of its fields. -/
def read (schema : Schema) (v : Json) : Except Fault Entries :=
  match v with
  | .object members => schema.ofMembers members
  | .array items => schema.ofItems "fewer elements in array" items
  | v => .error (.wrongType v s!"struct {schema.title}")

/-- The entries of a record inside an acknowledgement. It differs from one that stands by itself
only in what is said of an array that is too long. -/
def readNested (schema : Schema) (v : Json) : Except Fault Entries :=
  match v with
  | .array items => schema.ofItems s!"{schema.slots.length} elements in sequence" items
  | v => schema.read v

/-- The members of a record that is written as an object only. -/
def members (schema : Schema) (v : Json) : Except Fault Json.Members :=
  match v with
  | .object members => .ok members
  | v => .error (.wrongType v s!"struct {schema.title}")

end Schema
end UptimeSync.Wire
