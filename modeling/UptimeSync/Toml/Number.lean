import UptimeSync.Config.Value
import UptimeSync.Text.Digit
import UptimeSync.Toml.Layout

namespace UptimeSync.Toml

/-- Drops the underscores from a run of digits. Each of them has to stand between two digits. -/
def ungroup? : List Char → Option (List Char)
  | [] => none
  | '_' :: _ => none
  | [d] => some [d]
  | d :: '_' :: rest | d :: rest => (ungroup? rest).map (d :: ·)

/-- Reads a run of digits in a base, at least one of them. -/
def readDigits? (base : Nat) (cs : List Char) : Option (List Char × List Char) := do
  let (grouped, rest) := cs.span fun c => c = '_' || (Text.digit? base c).isSome
  let digits ← ungroup? grouped
  some (digits, rest)

/-- Reads the digits of an integer that is not in base ten. -/
def readBased? (base : Nat) (cs : List Char) : Option (Config.Value × List Char) := do
  let (digits, rest) ← readDigits? base cs
  let n ← Text.numeral? base digits
  if n ≤ Int64.maxValue.toInt then some (.integer (Int64.ofNat n), rest) else none

/-- Reads the digits after a point, if there is one. -/
def readFraction? : List Char → Option (Option (List Char) × List Char)
  | '.' :: cs => (readDigits? 10 cs).map fun (digits, rest) => (some digits, rest)
  | cs => some (none, cs)

/-- Reads an exponent, if there is one. -/
def readExponent? : List Char → Option (Option Int × List Char)
  | c :: cs =>
    if c = 'e' ∨ c = 'E' then do
      let (negative, cs) := Decimal.readSign cs
      let (digits, rest) ← readDigits? 10 cs
      let n : Int := Decimal.digitsValue digits
      some (some (if negative then -n else n), rest)
    else some (none, c :: cs)
  | [] => some (none, [])

/-- Reads a number in base ten without its sign: an integer of 64 bits, or a real if it has a
fraction or an exponent. A real too large for a double is refused, one below the least double is
negative infinity. -/
def readDecimal? (negative : Bool) (cs : List Char) : Option (Config.Value × List Char) := do
  let (whole, rest) ← readDigits? 10 cs
  if 1 < whole.length ∧ whole.head? = some '0' then none
  let (fraction, rest) ← readFraction? rest
  let (exponent, rest) ← readExponent? rest
  if fraction.isNone ∧ exponent.isNone then
    let n ← Decimal.readInt64? (if negative then '-' :: whole else whole)
    some (.integer n, rest)
  else
    let decimals := fraction.getD []
    let digits := Decimal.digitsValue (whole ++ decimals)
    match Binary64.ofDecimal negative digits (exponent.getD 0 - decimals.length) with
    | .infinite false => none
    | x => some (.real x, rest)

/-- Reads a number. -/
def readNumber? : List Char → Option (Config.Value × List Char)
  | '0' :: 'x' :: rest => readBased? 16 rest
  | '0' :: 'o' :: rest => readBased? 8 rest
  | '0' :: 'b' :: rest => readBased? 2 rest
  | cs =>
    match Decimal.readSign cs with
    | (negative, 'i' :: 'n' :: 'f' :: rest) => some (.real (.infinite negative), rest)
    | (_, 'n' :: 'a' :: 'n' :: rest) => some (.real .nan, rest)
    | (negative, rest) => readDecimal? negative rest

end UptimeSync.Toml
