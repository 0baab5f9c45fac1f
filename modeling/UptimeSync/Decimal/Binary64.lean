namespace UptimeSync

/-- Two to the power of an exponent. -/
def Binary64.twoPow (n : Nat) : Nat := Nat.pow 2 n

/-- The number of units of 2 ^ -1074 in one. -/
def Binary64.one : Nat := twoPow 1074

/-- The first power of two that overflows, in units of 2 ^ -1074. -/
def Binary64.limit : Nat := twoPow 2098

/-- The magnitudes of finite double-precision numbers, counted in units of 2 ^ -1074: at most 53
significant bits, and below the limit. -/
def Binary64.Representable (units : Nat) : Prop :=
  units < Binary64.limit ∧ ∃ m s, m < twoPow 53 ∧ units = m * twoPow s

/-- A finite double-precision number: a sign and a magnitude in units of 2 ^ -1074. Zero has two
signs. -/
structure Binary64.Finite where
  negative : Bool
  units : Nat
  representable : Binary64.Representable units
deriving DecidableEq

/-- A double-precision number. The signs and payloads of not-a-number are not told apart. -/
inductive Binary64 where
  | finite (x : Binary64.Finite)
  | infinite (negative : Bool)
  | nan
deriving DecidableEq

namespace Binary64

theorem twoPow_pos (n : Nat) : 0 < twoPow n :=
  Nat.two_pow_pos n

theorem twoPow_add (m n : Nat) : twoPow (m + n) = twoPow m * twoPow n :=
  Nat.pow_add 2 m n

theorem twoPow_le {m n : Nat} (hle : m ≤ n) : twoPow m ≤ twoPow n :=
  Nat.pow_le_pow_right (by decide) hle

theorem one_pos : 0 < one :=
  twoPow_pos 1074

theorem limit_pos : 0 < limit :=
  twoPow_pos 2098

theorem representable_zero : Representable 0 :=
  ⟨limit_pos, 0, 0, by decide, rfl⟩

/-- The integer nearest to a quotient; a tie goes to the even neighbour. -/
def nearest (num den : Nat) : Nat :=
  match compare (2 * (num % den)) den with
  | .lt => num / den
  | .gt => num / den + 1
  | .eq => num / den + num / den % 2

theorem nearest_le_succ (num den : Nat) : nearest num den ≤ num / den + 1 := by
  unfold nearest
  split <;> omega

/-- The number of bits of a quotient that lie below its 53 leading ones. -/
def excessBits (num den : Nat) : Nat :=
  (num / den).log2 + 1 - 53

/-- A quotient of units rounded to 53 significant bits, or to a whole number of units where fewer
bits are available. -/
def roundedUnits (num den : Nat) : Nat :=
  nearest num (den * twoPow (excessBits num den)) * twoPow (excessBits num den)

theorem roundedUnits_short (num den : Nat) :
    ∃ m s, m < twoPow 53 ∧ roundedUnits num den = m * twoPow s := by
  unfold roundedUnits
  simp only [twoPow, Nat.pow_eq]
  generalize hexcess : excessBits num den = excess
  unfold excessBits at hexcess
  have hfloor : num / (den * 2 ^ excess) < 2 ^ 53 := by
    rw [← Nat.div_div_eq_div_mul]
    apply Nat.div_lt_of_lt_mul
    rw [← Nat.pow_add]
    calc num / den < 2 ^ ((num / den).log2 + 1) := Nat.lt_log2_self
      _ ≤ 2 ^ (excess + 53) := Nat.pow_le_pow_right (by decide) (by omega)
  have hle := nearest_le_succ num (den * 2 ^ excess)
  by_cases hlt : nearest num (den * 2 ^ excess) < 2 ^ 53
  · exact ⟨_, excess, hlt, rfl⟩
  · have heq : nearest num (den * 2 ^ excess) = 2 ^ 53 := by omega
    exact ⟨1, 53 + excess, by decide, by rw [heq, Nat.one_mul, Nat.pow_add]⟩

/-- The double nearest to a quotient of units. A magnitude that rounds past the largest finite
double becomes infinite. -/
def ofUnits (negative : Bool) (num den : Nat) : Binary64 :=
  if h : roundedUnits num den < limit then
    .finite ⟨negative, roundedUnits num den, h, roundedUnits_short num den⟩
  else
    .infinite negative

/-- The double nearest to an integer. -/
def ofInt (n : Int) : Binary64 :=
  ofUnits (n < 0) (n.natAbs * one) 1

/-- The double nearest to `digits * 10 ^ exponent`. The two guards answer at once for magnitudes
that are certain to overflow or to vanish, so that no power of ten grows with the exponent's
text. -/
def ofDecimal (negative : Bool) (digits : Nat) (exponent : Int) : Binary64 :=
  if digits = 0 then .finite ⟨negative, 0, representable_zero⟩
  else if 309 ≤ exponent then .infinite negative
  else if exponent < -(digits.log2 + 331 : Int) then .finite ⟨negative, 0, representable_zero⟩
  else ofUnits negative (digits * Nat.pow 10 exponent.toNat * one) (Nat.pow 10 (-exponent).toNat)

/-- The product with a positive double of so many units, rounded. -/
def timesUnits (x : Binary64) (factor : Nat) : Binary64 :=
  match x with
  | .finite x => ofUnits x.negative (x.units * factor) one
  | x => x

/-- The quotient by a positive double of so many units, rounded. -/
def overUnits (x : Binary64) (divisor : Nat) : Binary64 :=
  match x with
  | .finite x => ofUnits x.negative (x.units * one) divisor
  | x => x

/-- Holds of the two zeros. -/
def isZero : Binary64 → Bool
  | .finite x => x.units == 0
  | _ => false

/-- Numeric equality: the zeros are equal and not-a-number differs from itself. -/
def numericallyEqual : Binary64 → Binary64 → Bool
  | .finite x, .finite y => x.units == y.units && (x.negative == y.negative || x.units == 0)
  | .infinite m, .infinite n => m == n
  | _, _ => false

private def signed (negative : Bool) (magnitude : Nat) : Int :=
  if negative then -(magnitude : Int) else magnitude

/-- The integer part of a number, clamped to 64 bits. Not-a-number counts as zero. -/
def truncate : Binary64 → Int64
  | .finite x => Int64.ofIntClamp (signed x.negative (x.units / one))
  | .infinite true => Int64.minValue
  | .infinite false => Int64.maxValue
  | .nan => 0

/-- The nearest integer, halves away from zero, clamped to the unsigned 64-bit range. Not-a-number
counts as zero. -/
def roundUnsigned : Binary64 → Nat
  | .finite ⟨false, units, _⟩ => min ((2 * units + one) / (2 * one)) (UInt64.size - 1)
  | .infinite false => UInt64.size - 1
  | _ => 0

end Binary64
end UptimeSync
