import UptimeSync.Config.Value
import UptimeSync.Text.Search

namespace UptimeSync.Config.Environment

/-- What the lower-case name of a variable of this program begins with. -/
def opening : String := "uptime_kuma__"

/-- Writes a point for each two underscores, from left to right. -/
def dotted : List Char → List Char
  | '_' :: '_' :: cs => '.' :: dotted cs
  | c :: cs => c :: dotted cs
  | [] => []

/-- The key that a variable assigns, if it is one of this program's. -/
def key? (name : String) : Option String :=
  let lower := Value.lowerKey name
  if Text.startsWith lower opening then
    some (String.ofList (dotted (lower.toList.drop opening.toList.length)))
  else none

/-- The value that a text denotes: a flag, an integer or a real if it is written as one, and
otherwise the text itself. -/
def value (text : String) : Value :=
  match Text.lowerAscii text with
  | "true" => .flag true
  | "false" => .flag false
  | _ =>
    match Decimal.readInt64? text.toList, Decimal.readReal? text.toList with
    | some n, _ => .integer n
    | none, some x => .real x
    | none, none => .text text

/-- The entries that the variables of an environment assign. An empty variable assigns none. -/
def entries (environment : List (String × String)) : Value.Entries :=
  environment.filterMap fun (name, text) =>
    if text.isEmpty then none else (key? name).map (·, value text)

end UptimeSync.Config.Environment
