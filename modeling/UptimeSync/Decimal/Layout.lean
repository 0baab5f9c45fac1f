import UptimeSync.Decimal.Shortest

namespace UptimeSync

namespace Decimal

private def zeros (n : Nat) : List Char := List.replicate n '0'

/-- Digits in positional notation: the whole part, zero if there is none, and the fraction. -/
def positional (d : Decimal) : List Char × List Char :=
  match d.exponent with
  | .ofNat e =>
    let whole := d.digits.take (e + 1)
    (whole ++ zeros (e + 1 - whole.length), d.digits.drop (e + 1))
  | .negSucc e => (['0'], zeros e ++ d.digits)

/-- Positional notation with a point only where a fraction follows it. -/
def plain (d : Decimal) : List Char :=
  match d.positional with
  | (whole, []) => whole
  | (whole, fraction) => whole ++ '.' :: fraction

/-- Positional notation with a point in every case, at least one digit after it. -/
def pointed (d : Decimal) : List Char :=
  match d.positional with
  | (whole, []) => whole ++ ['.', '0']
  | (whole, fraction) => whole ++ '.' :: fraction

/-- One digit before the point, which is left out together with an empty fraction, and an exponent
that always carries its sign. -/
def scientific (d : Decimal) : List Char :=
  let point := match d.digits with
    | first :: rest@(_ :: _) => first :: '.' :: rest
    | digits => digits
  let sign := if d.exponent < 0 then '-' else '+'
  point ++ ['e', sign] ++ Nat.toDigits 10 d.exponent.natAbs

/-- Positional notation for the exponents from -5 to 15, scientific notation outside them. -/
def pointedOrScientific (d : Decimal) : List Char :=
  if -5 ≤ d.exponent ∧ d.exponent ≤ 15 then d.pointed else d.scientific

end Decimal

namespace Binary64

/-- A finite number written by `layout`, which is given the shortest digits of a positive magnitude;
zero is written as `zero`. -/
private def Finite.write (x : Finite) (zero : String) (tie : Decimal.Tie)
    (layout : Decimal → List Char) : String :=
  let magnitude := if x.units = 0 then zero.toList else layout (Decimal.shortest tie x.units)
  String.ofList (if x.negative then '-' :: magnitude else magnitude)

/-- The text of a number as a value: never an exponent, and no fraction for a whole number. A tie
goes away from zero. -/
def display : Binary64 → String
  | .finite x => x.write "0" .away Decimal.plain
  | .infinite negative => if negative then "-inf" else "inf"
  | .nan => "NaN"

/-- The text of a finite number that cannot be taken for an integer: it has a point or an
exponent. A tie goes to the even digit. -/
def Finite.literal (x : Finite) : String :=
  x.write "0.0" .toEven Decimal.pointedOrScientific

end Binary64
end UptimeSync
