import UptimeSync.Json.Basic
import UptimeSync.Decimal.Read

/-!
Numbers in JSON texts. A decimal is not read as the nearest double: its leading digits make up a
64-bit significand, and that is scaled by powers of ten in double precision, with a rounding at each
step.
-/

namespace UptimeSync.Json

/-- A double as a JSON value, which has to be finite. -/
def ofBinary64? : Binary64 → Option Json
  | .finite x => some (real x)
  | _ => none

/-- The double nearest to a significand. -/
def ofSignificand (negative : Bool) (significand : Nat) : Binary64 :=
  .ofUnits negative (significand * Binary64.one) 1

/-- The exponent of the greatest power of ten that is scaled by at once. -/
def maxTenPow : Nat := 308

/-- The double nearest to a power of ten, in units. -/
def tenPow (n : Nat) : Nat := Binary64.roundedUnits (Nat.pow 10 n * Binary64.one) 1

/-- Divides by a power of ten, if need be in several steps. Nothing is left to divide of a zero. -/
def scaledDown (x : Binary64) (n : Nat) : Binary64 :=
  if n ≤ maxTenPow then x.overUnits (tenPow n)
  else if x.isZero then x
  else scaledDown (x.overUnits (tenPow maxTenPow)) (n - maxTenPow)
termination_by n
decreasing_by
  simp only [maxTenPow] at *
  omega

/-- A significand times a power of ten. One that is too large to be scaled up is infinite. -/
def scaled (negative : Bool) (significand : Nat) (exponent : Int) : Binary64 :=
  let x := ofSignificand negative significand
  if exponent < 0 then scaledDown x exponent.natAbs
  else if exponent ≤ maxTenPow then x.timesUnits (tenPow exponent.toNat)
  else if x.isZero then x
  else .infinite negative

/-- The value of a number without point and exponent: an integer if it fits into 64 bits, signed or
unsigned, otherwise the nearest real. A negative zero is a real. -/
def ofWhole? (negative : Bool) (n : Nat) : Option Json :=
  let value : Int := if negative then -(n : Int) else n
  if negative ∧ n = 0 then ofBinary64? (ofSignificand negative n)
  else if h : Int64.minValue.toInt ≤ value ∧ value < UInt64.size then
    some (integer ⟨value, h.1, h.2⟩)
  else ofBinary64? (ofSignificand negative n)

/-- Appends digits to a significand as long as it fits into 64 bits. Gives the significand and the
digits it has no room for. -/
def gather (significand : Nat) : List Char → Nat × List Char
  | [] => (significand, [])
  | c :: cs =>
    let next := 10 * significand + (c.toNat - '0'.toNat)
    if next < UInt64.size then gather next cs else (significand, c :: cs)

/-- The exponent of a number as it is written: its sign, and its magnitude. -/
structure Exponent where
  negative : Bool
  magnitude : Nat

/-- The value of a number with a point, with an exponent or with more digits than its significand
holds. An exponent of more than 31 bits is not looked at any closer. -/
def ofParts? (negative : Bool) (significand : Nat) (scale : Int) : Option Exponent → Option Json
  | none => ofBinary64? (scaled negative significand scale)
  | some exponent =>
    if exponent.magnitude ≤ Int32.maxValue.toInt then
      let shift : Int := if exponent.negative then -(exponent.magnitude : Int) else exponent.magnitude
      ofBinary64? (scaled negative significand (scale + shift))
    else if significand = 0 ∨ exponent.negative then ofBinary64? (ofSignificand negative 0)
    else none

/-- The rest of a number after its whole part: the fraction's digits, the exponent if there is one,
and what follows. -/
def readTail? (cs : List Char) : Option (Option (List Char) × Option Exponent × List Char) := do
  let (fraction, rest) ← match cs with
    | '.' :: more =>
      let (digits, rest) := Decimal.spanDigits more
      if digits = [] then none else some (some digits, rest)
    | _ => some (none, cs)
  match rest with
  | c :: more =>
    if c = 'e' ∨ c = 'E' then
      let (negative, more) := Decimal.readSign more
      let (digits, rest) := Decimal.spanDigits more
      if digits = [] then none
      else some (fraction, some ⟨negative, Decimal.digitsValue digits⟩, rest)
    else some (fraction, none, rest)
  | [] => some (fraction, none, rest)

/-- The value of a number from its parts. Digits of the whole part that the significand has no room
for count for the scale, those of the fraction do not count at all. -/
def assemble? (negative : Bool) (whole : List Char) (fraction : Option (List Char))
    (exponent : Option Exponent) : Option Json :=
  let (leading, excess) := gather 0 whole
  match fraction, exponent, excess with
  | none, none, [] => ofWhole? negative leading
  | _, _, _ =>
    let decimals := fraction.getD []
    let (significand, ignored) := gather leading decimals
    let scale : Int := excess.length - (decimals.length - ignored.length : Nat)
    ofParts? negative significand scale exponent

/-- Reads a number behind its sign: a whole part without superfluous zeros, then optionally a
fraction and an exponent. -/
def readUnsigned? (negative : Bool) (cs : List Char) : Option (Json × List Char) := do
  let (whole, rest) := Decimal.spanDigits cs
  if whole = [] ∨ (1 < whole.length ∧ whole.head? = some '0') then none
  let (fraction, exponent, rest) ← readTail? rest
  let number ← assemble? negative whole fraction exponent
  some (number, rest)

/-- Reads a number, which may have a minus but no plus in front of it. -/
def readNumber? : List Char → Option (Json × List Char)
  | '-' :: rest => readUnsigned? true rest
  | cs => readUnsigned? false cs

end UptimeSync.Json
