import UptimeSync.Error
import UptimeSync.Record.Tag
import UptimeSync.Text.Blank

namespace UptimeSync

namespace Text

/-- Holds of the ASCII hexadecimal digits of either case. -/
def isHexDigit (c : Char) : Bool :=
  ('0' ≤ c && c ≤ '9') || ('a' ≤ c && c ≤ 'f') || ('A' ≤ c && c ≤ 'F')

/-- Holds of `#` followed by hexadecimal digits that take up three or six bytes. -/
def isHexColor (s : String) : Bool :=
  match s.toList with
  | '#' :: digits =>
    let size := (String.ofList digits).utf8ByteSize
    (size == 3 || size == 6) && digits.all isHexDigit
  | _ => false

end Text

namespace Tag

/-- A rule that a tag breaks. -/
inductive Violation where
  | negativeId (id : Int64)
  | blankName
  | notHexColor (color : String)
deriving DecidableEq

namespace Violation

def field : Violation → String
  | negativeId _ => "id"
  | blankName => "name"
  | notHexColor _ => "color"

def reason : Violation → String
  | negativeId id => s!"must not be negative, got {id.toInt}"
  | blankName => "must not be empty"
  | notHexColor color => s!"'{color}' is not a hex color"

end Violation

/-- The first rule that a tag breaks. -/
def violation? (t : Tag) : Option Violation :=
  if t.id < 0 then some (.negativeId t.id)
  else if Text.isAllBlank t.name then some .blankName
  else if Text.isHexColor t.color then none
  else some (.notHexColor t.color)

def validate (t : Tag) : Except Error Unit :=
  match t.violation? with
  | some v => .error (.invalidField v.field v.reason)
  | none => .ok ()

end Tag
end UptimeSync
