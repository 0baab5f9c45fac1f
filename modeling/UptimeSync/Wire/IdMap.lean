import Std.Data.ExtTreeMap
import UptimeSync.Wire.Fault
import UptimeSync.Decimal.Read
import UptimeSync.Text.Blank

namespace UptimeSync

/-- A finite map from identifiers, in ascending order. -/
abbrev IdMap (α : Type) := Std.ExtTreeMap Int64 α

namespace Wire

/-- The identifier that a key of a table denotes, blanks around it aside. -/
def idOfKey (key : String) : Except ReadError Int64 :=
  match Decimal.readInt64? (Text.trimmed key.toList) with
  | some id => .ok id
  | none => .error (.badKey key)

/-- Reads one value as a record. -/
def readValue (read : Json → Except Fault α) (v : Json) : Except ReadError α :=
  (read v).mapError .value

/-- Reads a table of records by identifier, entry by entry: of several keys for one identifier the
last one counts. One bad entry fails the whole table. -/
def readTable (read : Json → Except Fault α) (members : Json.Members) :
    Except ReadError (IdMap α) :=
  members.foldlM (fun table (key, v) => do
    let id ← idOfKey key
    let record ← readValue read v
    return table.insert id record) ∅

/-- Reads a list of records. -/
def readList (read : Json → Except Fault α) (items : List Json) : Except ReadError (List α) :=
  items.mapM (readValue read)

end Wire
end UptimeSync
