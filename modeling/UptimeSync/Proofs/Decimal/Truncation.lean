import UptimeSync.Decimal.Binary64

namespace Int64

variable {n : Int}

/-- Clamping an integer to 64 bits is taking the bound that it is beyond. -/
theorem toInt_ofIntClamp_eq (n : Int) :
    (Int64.ofIntClamp n).toInt = max Int64.minValue.toInt (min n Int64.maxValue.toInt) := by
  have hbounds : Int64.minValue.toInt ≤ Int64.maxValue.toInt := by decide
  unfold Int64.ofIntClamp
  split
  next hlower =>
    split
    next hupper =>
      rw [Int64.ofIntLE_eq_ofIntClamp, Int64.toInt_ofIntClamp hlower hupper]
      omega
    next hupper => omega
  next hlower => omega

theorem ofIntClamp_of_le_minValue (hsmall : n ≤ Int64.minValue.toInt) : Int64.ofIntClamp n = Int64.minValue := by
  have hbounds : Int64.minValue.toInt ≤ Int64.maxValue.toInt := by decide
  rw [← Int64.toInt_inj, toInt_ofIntClamp_eq]
  omega

theorem ofIntClamp_of_maxValue_le (hlarge : Int64.maxValue.toInt ≤ n) : Int64.ofIntClamp n = Int64.maxValue := by
  have hbounds : Int64.minValue.toInt ≤ Int64.maxValue.toInt := by decide
  rw [← Int64.toInt_inj, toInt_ofIntClamp_eq]
  omega

end Int64

namespace UptimeSync.Binary64

variable {num den n : Nat}

/-- Rounding does not cross a power of two. -/
theorem twoPow_le_roundedUnits {k : Nat} (hlarge : twoPow k ≤ num / den) : twoPow k ≤ roundedUnits num den := by
  have hpos : num / den ≠ 0 := Nat.ne_of_gt (Nat.lt_of_lt_of_le (twoPow_pos k) hlarge)
  unfold roundedUnits
  generalize hexcess : excessBits num den = excess
  have hexcess : excess ≤ (num / den).log2 := by
    unfold excessBits at hexcess
    omega
  have hsplit : twoPow (num / den).log2 = twoPow ((num / den).log2 - excess) * twoPow excess := by
    rw [← twoPow_add, Nat.sub_add_cancel hexcess]
  -- The leading bit is not among those that are rounded away.
  have hleading : twoPow ((num / den).log2 - excess) ≤ num / (den * twoPow excess) := by
    rw [← Nat.div_div_eq_div_mul, Nat.le_div_iff_mul_le (twoPow_pos excess), ← hsplit]
    exact Nat.log2_self_le hpos
  have hnearest : num / (den * twoPow excess) ≤ nearest num (den * twoPow excess) := by
    unfold nearest
    split <;> omega
  calc twoPow k ≤ twoPow (num / den).log2 :=
        twoPow_le ((Nat.le_log2 hpos).mpr hlarge)
    _ = twoPow ((num / den).log2 - excess) * twoPow excess := hsplit
    _ ≤ nearest num (den * twoPow excess) * twoPow excess :=
        Nat.mul_le_mul_right _ (Nat.le_trans hleading hnearest)

/-- A finite number that is too large for 64 bits is truncated to a bound. -/
theorem truncate_finite {x : Finite} (hlarge : twoPow 63 * one ≤ x.units) :
    (finite x).truncate = if x.negative then Int64.minValue else Int64.maxValue := by
  have hwhole : (twoPow 63 : Int) ≤ (x.units / one : Nat) :=
    Int.ofNat_le.mpr ((Nat.le_div_iff_mul_le one_pos).mpr hlarge)
  have htruncate : (finite x).truncate =
    Int64.ofIntClamp (if x.negative then -((x.units / one : Nat) : Int) else (x.units / one : Nat)) := rfl
  rw [htruncate]
  cases x.negative with
  | true => exact Int64.ofIntClamp_of_le_minValue (Int.neg_le_neg hwhole)
  | false => exact Int64.ofIntClamp_of_maxValue_le (Int.le_trans (by decide) hwhole)

/-- A quotient that is too large for 64 bits is truncated to a bound, however it is rounded. -/
theorem truncate_ofUnits (hlarge : twoPow 63 * one ≤ num / den) (negative : Bool) :
    (ofUnits negative num den).truncate = if negative then Int64.minValue else Int64.maxValue := by
  have hpow : twoPow 63 * one = twoPow (63 + 1074) := by
    rw [one, twoPow_add]
  rw [hpow] at hlarge
  have hrounded := twoPow_le_roundedUnits hlarge
  rw [← hpow] at hrounded
  unfold ofUnits
  split
  next => exact truncate_finite hrounded
  next => cases negative <;> rfl

theorem truncate_ofWhole (hlarge : twoPow 63 ≤ n) (negative : Bool) :
    (ofUnits negative (n * one) 1).truncate = if negative then Int64.minValue else Int64.maxValue := by
  refine truncate_ofUnits ?_ negative
  rw [Nat.div_one]
  exact Nat.mul_le_mul_right one hlarge

/-- The double of an integer that is too large for 64 bits is truncated to the largest of them. -/
theorem truncate_ofInt {i : Int} (hlarge : Int64.maxValue.toInt < i) : (ofInt i).truncate = Int64.maxValue := by
  have hbound : Int64.maxValue.toInt + 1 = twoPow 63 := by decide
  have hmagnitude : twoPow 63 ≤ i.natAbs := by omega
  have hsign : decide (i < 0) = false := decide_eq_false (by omega)
  rw [ofInt, truncate_ofWhole hmagnitude, hsign, if_neg Bool.false_ne_true]

theorem truncate_ofDecimal (hlarge : twoPow 63 ≤ n) (negative : Bool) :
    (ofDecimal negative n 0).truncate = if negative then Int64.minValue else Int64.maxValue := by
  have hpos : n ≠ 0 := Nat.ne_of_gt (Nat.lt_of_lt_of_le (twoPow_pos 63) hlarge)
  have hsmall : ¬(309 : Int) ≤ 0 := by decide
  have hreal : ¬(0 : Int) < -(n.log2 + 331 : Int) := by omega
  rw [ofDecimal, if_neg hpos, if_neg hsmall, if_neg hreal, ← truncate_ofWhole hlarge negative]
  simp only [Int.toNat_zero, Int.neg_zero, Nat.pow_eq, Nat.pow_zero, Nat.mul_one]

end UptimeSync.Binary64
