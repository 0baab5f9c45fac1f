import UptimeSync.Decimal.Binary64

namespace UptimeSync.Binary64

variable {num den k m s : Nat}

theorem compare_mul_right (hk : 0 < k) (a b : Nat) : compare (a * k) (b * k) = compare a b := by
  cases hcompare : compare a b with
  | lt => exact Nat.compare_eq_lt.mpr (Nat.mul_lt_mul_of_pos_right (Nat.compare_eq_lt.mp hcompare) hk)
  | eq => rw [Nat.compare_eq_eq.mp hcompare, Nat.compare_eq_eq]
  | gt => exact Nat.compare_eq_gt.mpr (Nat.mul_lt_mul_of_pos_right (Nat.compare_eq_gt.mp hcompare) hk)

theorem nearest_mul (hk : 0 < k) (num den : Nat) : nearest (num * k) (den * k) = nearest num den := by
  unfold nearest
  rw [Nat.mul_div_mul_right num den hk, Nat.mul_mod_mul_right, ← Nat.mul_assoc, compare_mul_right hk]

theorem nearest_of_dvd (hden : 0 < den) (q : Nat) : nearest (q * den) den = q := by
  have hexact : compare (2 * (q * den % den)) den = .lt := by
    rw [Nat.mul_mod_left, Nat.compare_eq_lt]
    exact hden
  rw [nearest, hexact]
  exact Nat.mul_div_cancel q hden

/-- A quotient is rounded alike, however it is expanded. -/
theorem roundedUnits_mul (hk : 0 < k) (num den : Nat) : roundedUnits (num * k) (den * k) = roundedUnits num den := by
  have hexcess : excessBits (num * k) (den * k) = excessBits num den := by
    rw [excessBits, excessBits, Nat.mul_div_mul_right num den hk]
  rw [roundedUnits, hexcess, Nat.mul_right_comm, nearest_mul hk]
  rfl

theorem ofUnits_mul (hk : 0 < k) (negative : Bool) (num den : Nat) :
    ofUnits negative (num * k) (den * k) = ofUnits negative num den := by
  simp only [ofUnits, roundedUnits_mul hk]

theorem timesUnits_mul_one (x : Finite) (n : Nat) :
    (finite x).timesUnits (n * one) = ofUnits x.negative (x.units * n) 1 := by
  rw [← ofUnits_mul one_pos, Nat.one_mul, Nat.mul_assoc]
  rfl

theorem overUnits_mul_one (x : Finite) (n : Nat) :
    (finite x).overUnits (n * one) = ofUnits x.negative x.units n :=
  ofUnits_mul one_pos x.negative x.units n

/-- What has no more than 53 significant bits is not rounded. -/
theorem roundedUnits_of_short (hm : m < twoPow 53) (s : Nat) : roundedUnits (m * twoPow s) 1 = m * twoPow s := by
  have hexcess : excessBits (m * twoPow s) 1 ≤ s := by
    rw [excessBits, Nat.div_one]
    by_cases hzero : m * twoPow s = 0
    · rw [hzero, Nat.log2_zero]
      omega
    · have hbits : (m * twoPow s).log2 < 53 + s := by
        rw [Nat.log2_lt hzero, Nat.pow_add]
        exact Nat.mul_lt_mul_of_pos_right hm (twoPow_pos s)
      omega
  unfold roundedUnits
  generalize excessBits (m * twoPow s) 1 = excess at hexcess
  have hsplit : m * twoPow s = m * twoPow (s - excess) * twoPow excess := by
    rw [Nat.mul_assoc, ← twoPow_add, Nat.sub_add_cancel hexcess]
  rw [hsplit, Nat.one_mul, nearest_of_dvd (twoPow_pos excess)]

/-- A whole number of no more than 53 bits is a double. -/
theorem exists_ofUnits_of_short (hm : m < twoPow 53) (negative : Bool) :
    ∃ x, ofUnits negative (m * one) 1 = .finite x ∧ x.negative = negative ∧ x.units = m * one := by
  have hrounded : roundedUnits (m * one) 1 = m * one := by
    rw [one]
    exact roundedUnits_of_short hm 1074
  have hlimit : roundedUnits (m * one) 1 < limit := by
    rw [hrounded, one, limit]
    calc m * twoPow 1074 < twoPow 53 * twoPow 1074 := Nat.mul_lt_mul_of_pos_right hm (twoPow_pos 1074)
      _ = twoPow (53 + 1074) := (twoPow_add 53 1074).symm
      _ ≤ twoPow 2098 := twoPow_le (by decide)
  rw [ofUnits, dif_pos hlimit]
  exact ⟨_, rfl, rfl, hrounded⟩

theorem roundedUnits_zero (den : Nat) : roundedUnits 0 den = 0 := by
  have hnearest (d : Nat) : nearest 0 d = 0 := by
    unfold nearest
    rw [Nat.zero_mod, Nat.zero_div]
    split
    · rfl
    · next hgt => exact absurd (Nat.compare_eq_gt.mp hgt) (Nat.not_lt_zero d)
    · rfl
  rw [roundedUnits, hnearest, Nat.zero_mul]

/-- For small exponents the guards against large and small magnitudes do not matter. -/
theorem ofDecimal_eq_ofUnits {exponent : Int} (hsmall : exponent.natAbs ≤ 22) (negative : Bool) (digits : Nat) :
    ofDecimal negative digits exponent =
      ofUnits negative (digits * Nat.pow 10 exponent.toNat * one) (Nat.pow 10 (-exponent).toNat) := by
  rw [ofDecimal]
  split
  · next hzero =>
    subst hzero
    simp only [Nat.zero_mul, ofUnits, roundedUnits_zero, limit_pos, dif_pos]
  · rw [if_neg (by omega), if_neg (by omega)]

end UptimeSync.Binary64
