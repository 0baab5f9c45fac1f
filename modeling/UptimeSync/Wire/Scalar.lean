import UptimeSync.Wire.Fault
import UptimeSync.Decimal.Read
import UptimeSync.Text.Blank

namespace UptimeSync

/-- A loosely typed scalar as the server sends it. The server is not consistent about the types of
scalars, so each may be read as an integer, as a flag or as text. -/
inductive Scalar where
  | absent
  | flag (b : Bool)
  | integer (n : Int64)
  | real (x : Binary64)
  | text (s : String)

namespace Scalar

/-- The scalar that a JSON value holds. An integer above the signed range is kept as the nearest
real. -/
def ofJson : Json → Except Fault Scalar
  | .null => .ok absent
  | .bool b => .ok (flag b)
  | .integer n =>
    .ok <|
      if n.value ≤ Int64.maxValue.toInt then integer (Int64.ofIntClamp n.value)
      else real (.ofInt n.value)
  | .real x => .ok (real (.finite x))
  | .string s => .ok (text s)
  | .array _ | .object _ => .error .notScalar

/-- Reads text as an integer: blank text is zero, an integer that fits into 64 bits is itself, and
any other number is truncated and clamped. -/
def textToInt (s : String) : Except Fault Int64 :=
  let trimmed := (Text.trim s).toList
  if trimmed = [] then .ok 0
  else
    match Decimal.readInt64? trimmed with
    | some n => .ok n
    | none =>
      match Decimal.readReal? trimmed with
      | some x => .ok x.truncate
      | none => .error (.unreadable (String.ofList trimmed) "int")

/-- Reads text as a flag: blank text is false, and a few spellings of either value are known. -/
def textToFlag (s : String) : Except Fault Bool :=
  let trimmed := Text.trim s
  if ["1", "t", "T", "true", "TRUE", "True"].contains trimmed then .ok true
  else if ["", "0", "f", "F", "false", "FALSE", "False"].contains trimmed then .ok false
  else .error (.unreadable trimmed "bool")

/-- The scalar as an integer, if it is present. -/
def toInt? : Scalar → Except Fault (Option Int64)
  | absent => .ok none
  | flag b => .ok (some (if b then 1 else 0))
  | integer n => .ok (some n)
  | real x => .ok (some x.truncate)
  | text s => (textToInt s).map some

/-- The scalar as a flag, if it is present: numbers are true unless they are zero. -/
def toFlag? : Scalar → Except Fault (Option Bool)
  | absent => .ok none
  | flag b => .ok (some b)
  | integer n => .ok (some (n != 0))
  | real x => .ok (some !x.isZero)
  | text s => (textToFlag s).map some

/-- The scalar as text, if it is present. -/
def toText? : Scalar → Option String
  | absent => none
  | flag b => some (if b then "1" else "0")
  | integer n => some (toString n.toInt)
  | real x => some x.display
  | text s => some s

/-- The scalars of a list. A value that is no list counts as a list of that one scalar. -/
def listOfJson : Json → Except Fault (List Scalar)
  | .array items => (items.mapM ofJson).mapError fun _ => .notScalarList
  | value => (ofJson value).map ([·]) |>.mapError fun _ => .notScalarList

end Scalar

namespace Json

/-- Reads a loosely typed integer; null stands for none. -/
def looseOptInt (v : Json) : Except Fault (Option Int64) :=
  Scalar.ofJson v >>= Scalar.toInt?

/-- Reads a loosely typed integer; null stands for zero. -/
def looseInt (v : Json) : Except Fault Int64 :=
  v.looseOptInt.map (·.getD 0)

/-- Reads a loosely typed flag; null stands for none. -/
def looseOptFlag (v : Json) : Except Fault (Option Bool) :=
  Scalar.ofJson v >>= Scalar.toFlag?

/-- Reads a loosely typed flag; null stands for false. -/
def looseFlag (v : Json) : Except Fault Bool :=
  v.looseOptFlag.map (·.getD false)

/-- Reads loosely typed text; null stands for none. -/
def looseOptText (v : Json) : Except Fault (Option String) :=
  (Scalar.ofJson v).map Scalar.toText?

/-- Reads loosely typed text; null stands for the empty text. -/
def looseText (v : Json) : Except Fault String :=
  v.looseOptText.map (·.getD "")

/-- Reads a list of loosely typed integers, from which nulls are left out. -/
def looseInts (v : Json) : Except Fault (List Int64) := do
  let scalars ← Scalar.listOfJson v
  (·.reduceOption) <$> scalars.mapM Scalar.toInt?

/-- Reads a list of loosely typed texts, from which nulls are left out. -/
def looseTexts (v : Json) : Except Fault (List String) := do
  let scalars ← Scalar.listOfJson v
  return scalars.filterMap Scalar.toText?

end Json
end UptimeSync
