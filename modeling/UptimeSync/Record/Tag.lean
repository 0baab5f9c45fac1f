import UptimeSync.Wire.Schema

namespace UptimeSync

/-- A label for monitors. It has a value only where it is attached to a monitor. -/
structure Tag where
  id : Int64 := 0
  name : String := ""
  color : String := ""
  value : Option String := none
deriving DecidableEq

namespace Tag

def schema : Wire.Schema where
  title := "Tag"
  slots := [⟨"id", .int, []⟩, ⟨"name", .text, []⟩, ⟨"color", .text, []⟩, ⟨"value", .text, []⟩]

/-- The tag with the given entries. -/
def ofEntries (e : Wire.Entries) : Tag where
  id := e.int "id"
  name := e.text "name"
  color := e.text "color"
  value := e.optText "value"

def ofJson (v : Json) : Except Fault Tag :=
  (schema.read v).map ofEntries

/-- Reads a tag that is part of an acknowledgement. -/
def ofNested (v : Json) : Except Fault Tag :=
  (schema.readNested v).map ofEntries

/-- A tag without a value is written without that field. -/
def toJson (t : Tag) : Json :=
  .ofMembers <|
    [("id", .ofInt64 t.id), ("name", .string t.name), ("color", .string t.color)] ++
      t.value.toList.map fun value => ("value", .string value)

end Tag
end UptimeSync
