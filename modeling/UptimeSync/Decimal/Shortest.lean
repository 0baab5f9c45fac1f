import UptimeSync.Decimal.Binary64

namespace UptimeSync

/-- A positive decimal number: its significant digits, the first of them not zero, and the power
of ten that the first digit counts. -/
structure Decimal where
  digits : List Char
  exponent : Int
deriving DecidableEq

namespace Decimal

/-- Which one of two equally near decimals is chosen: the one whose last digit is even, or the one
that is further away from zero. -/
inductive Tie where
  | toEven
  | away

/-- The decimal `n * 10 ^ lowest`, with the zeros at the end of `n` dropped. -/
def ofScaled (n : Nat) (lowest : Int) : Decimal :=
  let written := Nat.toDigits 10 n
  ⟨(written.reverse.dropWhile (· == '0')).reverse, lowest + written.length - 1⟩

/-- The power of ten of the leading digit of `num / den`, for a positive quotient. The estimate
from the binary logarithms is at most one too small. -/
def leadingExponent (num den : Nat) : Int :=
  let estimate := ((num.log2 : Int) - den.log2 - 1) * 30103 / 100000
  let reaches (e : Int) : Bool := den * Nat.pow 10 e.toNat ≤ num * Nat.pow 10 (-e).toNat
  if reaches (estimate + 1) then estimate + 1 else estimate

/-- The two neighbours of `units` among the multiples of `10 ^ lowest`, the nearer one first. A
multiple that is exact stands alone. -/
def neighbours (tie : Tie) (units : Nat) (lowest : Int) : List Nat :=
  let num := units * Nat.pow 10 (-lowest).toNat
  let den := Binary64.one * Nat.pow 10 lowest.toNat
  let below := num / den
  let takesBelow : Bool := match tie with
    | .toEven => Binary64.nearest num den = below
    | .away => 2 * (num % den) < den
  if num % den = 0 then [below]
  else if takesBelow then [below, below + 1]
  else [below + 1, below]

/-- The nearest decimal of at most `count` digits that reads back as the same double. -/
def withDigits? (tie : Tie) (units : Nat) (top : Int) (count : Nat) : Option Decimal :=
  let lowest := top + 1 - count
  let readsBack (n : Nat) : Bool :=
    match Binary64.ofDecimal false n lowest with
    | .finite x => x.units == units
    | _ => false
  ((neighbours tie units lowest).find? readsBack).map (ofScaled · lowest)

/-- The decimal with the fewest digits that reads back as a positive double, and the nearest to it
of those. Seventeen digits always suffice. -/
def shortest (tie : Tie) (units : Nat) : Decimal :=
  let top := leadingExponent units Binary64.one
  ((List.range 17).findSome? fun i => withDigits? tie units top (i + 1)).getD
    (ofScaled (units * Nat.pow 10 1074 / Binary64.one) (-1074))

end Decimal
end UptimeSync
