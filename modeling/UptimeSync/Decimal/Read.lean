import UptimeSync.Decimal.Binary64

namespace UptimeSync.Decimal

/-- Splits a run of ASCII digits off the front of a text. -/
def spanDigits (cs : List Char) : List Char × List Char :=
  cs.span Char.isDigit

/-- The number that a run of digits denotes. -/
def digitsValue (ds : List Char) : Nat :=
  ds.foldl (fun n c => 10 * n + (c.toNat - '0'.toNat)) 0

/-- Splits an optional sign off the front of a text; the flag says whether it is a minus. -/
def readSign : List Char → Bool × List Char
  | '-' :: cs => (true, cs)
  | '+' :: cs => (false, cs)
  | cs => (false, cs)

/-- Reads a natural number: digits only, at least one of them. -/
def readNatural? (cs : List Char) : Option Nat :=
  if cs ≠ [] ∧ cs.all Char.isDigit then some (digitsValue cs) else none

/-- Reads an integer of any size: an optional sign, then digits. -/
def readInteger? (cs : List Char) : Option Int :=
  let (negative, digits) := readSign cs
  (readNatural? digits).map fun n => if negative then -(n : Int) else n

/-- Reads an integer that fits into 64 bits. -/
def readInt64? (cs : List Char) : Option Int64 := do
  let n ← readInteger? cs
  if Int64.minValue.toInt ≤ n ∧ n ≤ Int64.maxValue.toInt then some (Int64.ofIntClamp n) else none

/-- Reads an unsigned integer that fits into 64 bits; a plus sign may precede it, a minus sign may
not. -/
def readUnsigned? (cs : List Char) : Option Nat := do
  let digits := match cs with
    | '+' :: rest => rest
    | rest => rest
  let n ← readNatural? digits
  if n < UInt64.size then some n else none

/-- Reads what follows the digits of a number: nothing, or an exponent. -/
private def readExponent? : List Char → Option Int
  | [] => some 0
  | c :: cs => if c = 'e' ∨ c = 'E' then readInteger? cs else none

/-- Reads an unsigned decimal: digits with at most one point among, before or after them, and an
optional exponent. -/
def readMagnitude? (negative : Bool) (cs : List Char) : Option Binary64 := do
  let (whole, rest) := spanDigits cs
  let (fraction, rest) := match rest with
    | '.' :: more => spanDigits more
    | _ => ([], rest)
  if whole = [] ∧ fraction = [] then none
  let exponent ← readExponent? rest
  some (Binary64.ofDecimal negative (digitsValue (whole ++ fraction)) (exponent - fraction.length))

/-- Reads a double: an optional sign, then a decimal or, in letters of either case, `inf`,
`infinity` or `nan`. -/
def readReal? (cs : List Char) : Option Binary64 :=
  let (negative, rest) := readSign cs
  match String.ofList (rest.map Char.toLower) with
  | "inf" | "infinity" => some (.infinite negative)
  | "nan" => some .nan
  | _ => readMagnitude? negative rest

end UptimeSync.Decimal
