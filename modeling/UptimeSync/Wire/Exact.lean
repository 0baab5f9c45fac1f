import UptimeSync.Wire.Schema

namespace UptimeSync

namespace Json

/-- Reads text that is not converted from anything else. -/
def exactText : Json → Except Fault String
  | .string s => .ok s
  | v => .error (.wrongType v "a string")

/-- Reads a flag that is not converted from anything else. -/
def exactFlag : Json → Except Fault Bool
  | .bool b => .ok b
  | v => .error (.wrongType v "a boolean")

/-- Reads an unsigned integer below `bound`; `wanted` names its type in messages. -/
def exactUnsigned (bound : Nat) (wanted : String) : Json → Except Fault Nat
  | .integer n =>
    if 0 ≤ n.value ∧ n.value < bound then .ok n.value.toNat else .error (.outOfRange n wanted)
  | v => .error (.wrongType v wanted)

/-- Reads a value or null. -/
def orNull (read : Json → Except Fault α) : Json → Except Fault (Option α)
  | .null => .ok none
  | v => (read v).map some

end Json

namespace Wire

/-- A field whose value has to be what `read` accepts; nothing is converted. -/
def Slot.exact (name : String) (read : Json → Except Fault α) : Slot :=
  ⟨name, .strict fun v => (read v).map fun _ => (), []⟩

/-- The value of a checked field, or a default if it is absent. -/
def Entries.exact (e : Entries) (name : String) (read : Json → Except Fault α) (default : α) : α :=
  ((e.members.lookup name).bind fun v => (read v).toOption).getD default

end Wire

end UptimeSync
