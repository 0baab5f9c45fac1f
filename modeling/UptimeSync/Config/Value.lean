import UptimeSync.Decimal.Layout
import UptimeSync.Decimal.Read
import UptimeSync.Keyed
import UptimeSync.Text.Blank

namespace UptimeSync

/-- A value as a source of the configuration states it, before it is given the type of a setting. -/
inductive Config.Value where
  | nil
  | flag (b : Bool)
  | integer (n : Int64)
  | real (x : Binary64)
  | text (s : String)
  | list (items : List Config.Value)
  | table (entries : List (String × Config.Value))

namespace Config.Value

/-- The entries of a table. -/
abbrev Entries := List (String × Config.Value)

/-- The entries of a value that is a table, and none of another one. -/
def entries : Value → Entries
  | table entries => entries
  | _ => []

/-- The items of a value that is a list, and none of another one. -/
def items : Value → List Value
  | list items => items
  | _ => []

/-- Lower-case letters for the upper-case ASCII letters and for the Kelvin sign, the one other
character whose lower-case form is an ASCII letter. -/
def lowerKey (key : String) : String :=
  key.map fun c => if c = '\u212a' then 'k' else c.toLower

/-! Conversions -/

/-- The flag that a value stands for: a number counts as set unless it is zero. -/
def toFlag? : Value → Option Bool
  | flag b => some b
  | integer n => some (n != 0)
  | real x => some (!x.isZero)
  | text s =>
    match Text.lowerAscii s with
    | "1" | "true" | "on" | "yes" => some true
    | "0" | "false" | "off" | "no" => some false
    | _ => none
  | _ => none

/-- The unsigned integer below `bound` that a value stands for. A real is rounded first, so that one
below zero counts as zero; a negative integer stands for none. -/
def toUnsigned? (bound : Nat) (v : Value) : Option Nat :=
  let n := match v with
    | flag b => some b.toNat
    | integer n => if 0 ≤ n then some n.toNatClampNeg else none
    | real x => some x.roundUnsigned
    | text s =>
      match Text.lowerAscii s with
      | "true" | "on" | "yes" => some 1
      | "false" | "off" | "no" => some 0
      | _ => Decimal.readUnsigned? s.toList
    | _ => none
  n.filter (· < bound)

/-- The text that a value stands for; numbers are written out anew. -/
def toText? : Value → Option String
  | text s => some s
  | flag b => some (if b then "true" else "false")
  | integer n => some (toString n.toInt)
  | real x => some x.display
  | _ => none

/-- Nothing for nil, and a text for every other value that stands for one. -/
def toOptText? : Value → Option (Option String)
  | nil => some none
  | v => v.toText?.map some

end Config.Value
end UptimeSync
