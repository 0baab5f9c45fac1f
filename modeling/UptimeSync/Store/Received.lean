import UptimeSync.Error

namespace UptimeSync

/-- A value that the server may not have sent yet. To have received a false or an empty value is
something else than to have received none. -/
inductive Received (α : Type) where
  | notYet
  | value (a : α)
deriving DecidableEq

namespace Received

variable {α : Type}

instance : Inhabited (Received α) := ⟨notYet⟩

def ofOption : Option α → Received α
  | none => notYet
  | some a => value a

def toOption : Received α → Option α
  | notYet => none
  | value a => some a

def isSet : Received α → Bool
  | notYet => false
  | value _ => true

/-- The value, or the error of one that was never received. -/
def get : Received α → Except Error α
  | notYet => .error .notSetYet
  | value a => .ok a

/-- The value, or a first one if none was received. -/
def getD (r : Received α) (first : α) : α :=
  r.toOption.getD first

/-- Applies a function to a value that was received. -/
def map (f : α → β) : Received α → Received β
  | notYet => notYet
  | value a => value (f a)

end Received
end UptimeSync
