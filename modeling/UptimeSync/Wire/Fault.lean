import UptimeSync.Json.Basic
import UptimeSync.Decimal.Layout
import UptimeSync.Decimal.Read
import UptimeSync.Text.Quoted
import UptimeSync.Text.Search

namespace UptimeSync

/-- A value as a message names what was found in the place of something else: scalars are shown,
containers only named. -/
def Json.found : Json → String
  | .null => "null"
  | .bool b => s!"boolean `{b}`"
  | .integer n => s!"integer `{n.value}`"
  | .real x => s!"floating point `{x.literal}`"
  | .string s => s!"string {Text.quoted s}"
  | .array _ => "sequence"
  | .object _ => "map"

/-- A place in a text. Lines and columns count from one; line zero stands for no place. -/
structure Location where
  line : Nat
  column : Nat

namespace Location

/-- The words that add a location to a message. -/
def words (place : Location) : String :=
  if place.line = 0 then "" else s!" at line {place.line} column {place.column}"

/-- Reads the words for a location, in which both numbers fit into 64 bits. -/
def read? (cs : List Char) : Option Location := do
  let number? (digits : List Char) := (Decimal.readNatural? digits).filter (· < UInt64.size)
  let rest ← Text.afterStart? " at line ".toList cs
  let (line, rest) := Decimal.spanDigits rest
  let column ← Text.afterStart? " column ".toList rest
  return { line := ← number? line, column := ← number? column }

/-- Takes a location off the end of a message. -/
def splitEnd? : List Char → Option (List Char × Location)
  | [] => none
  | c :: cs =>
    match read? (c :: cs) with
    | some place => some ([], place)
    | none => (splitEnd? cs).map fun (message, place) => (c :: message, place)

end Location

/-- Why a JSON value does not have the form that its place asks for. -/
inductive Fault where
  /-- A text is not the text of a number or of a flag. -/
  | unreadable (text : String) (wanted : String)
  /-- A container stands where a scalar belongs. -/
  | notScalar
  /-- What should be a list of scalars is neither a list of scalars nor a scalar. -/
  | notScalarList
  | wrongType (found : Json) (wanted : String)
  | outOfRange (found : Json.Integer) (wanted : String)
  /-- Two spellings of one field occur in one object. -/
  | repeatedField (name : String)
  /-- A record written as an array has more items than fields. -/
  | tooLong (length : Nat) (allowed : String)
  /-- A fault that is known by its text only. -/
  | stated (text : String)

/-- The fault with a given text. A location at its end is written anew. -/
def Fault.ofText (text : String) : Fault :=
  match Location.splitEnd? text.toList with
  | some (message, place) => .stated (String.ofList message ++ place.words)
  | none => .stated text

/-- The text of a fault. -/
def Fault.message : Fault → String
  | unreadable text wanted => s!"cannot parse '{text}' as {wanted}"
  | notScalar => "data did not match any variant of untagged enum Loose"
  | notScalarList => "data did not match any variant of untagged enum OneOrMany"
  | wrongType value wanted => s!"invalid type: {value.found}, expected {wanted}"
  | outOfRange n wanted => s!"invalid value: integer `{n.value}`, expected {wanted}"
  | repeatedField name => s!"duplicate field `{name}`"
  | tooLong length allowed => s!"invalid length {length}, expected {allowed}"
  | stated text => text

/-- Why a payload could not be read. -/
inductive ReadError where
  | value (fault : Fault)
  /-- A text does not hold a JSON value. -/
  | malformed
  /-- The key of a table is not the text of an identifier. -/
  | badKey (key : String)

/-- The text of a reading error. Which place of a malformed text is at fault is not kept. -/
def ReadError.message : ReadError → String
  | value fault => fault.message
  | malformed => "<syntax>"
  | badKey key => s!"invalid id key: {key}"

end UptimeSync
