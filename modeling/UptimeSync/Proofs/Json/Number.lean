import UptimeSync.Json.Number
import UptimeSync.Proofs.Decimal.Numeral
import UptimeSync.Proofs.Decimal.Rounding

namespace UptimeSync.Json

variable {ds : List Char} {negative : Bool}

theorem le_ofDigitChars (ds : List Char) (n : Nat) : n ≤ Nat.ofDigitChars 10 ds n := by
  induction ds generalizing n with
  | nil => exact Nat.le_refl n
  | cons d rest ih =>
    have hnext : n ≤ 10 * n + (d.toNat - '0'.toNat) := by omega
    exact hnext.trans (ih _)

/-- Digits are all gathered if the number they make up fits. -/
theorem gather_of_lt {significand : Nat} (hfits : Nat.ofDigitChars 10 ds significand < UInt64.size) :
    gather significand ds = (Nat.ofDigitChars 10 ds significand, []) := by
  induction ds generalizing significand with
  | nil => rfl
  | cons d rest ih =>
    have hnext : 10 * significand + (d.toNat - '0'.toNat) < UInt64.size :=
      (le_ofDigitChars rest _).trans_lt hfits
    rw [gather, if_pos hnext, ih hfits]
    rfl

/-- A number is not written with superfluous zeros. -/
theorem toDigits_not_superfluous (n : Nat) :
    ¬(Nat.toDigits 10 n = [] ∨ (1 < (Nat.toDigits 10 n).length ∧ (Nat.toDigits 10 n).head? = some '0')) := by
  have hkept := Decimal.toDigits_digitsValue (Decimal.isDigit_of_mem_toDigits (n := n))
  rw [Decimal.digitsValue_toDigits] at hkept
  rintro (hnil | ⟨hlong, hzero⟩)
  · exact Nat.toDigits_ne_nil hnil
  · obtain hsingle | hfirst := (Decimal.withoutLeadingZeros_eq_self_iff Nat.toDigits_ne_nil).mp hkept.symm
    · rw [hsingle] at hlong
      exact absurd hlong (by decide)
    · exact hfirst hzero

theorem readUnsigned?_toDigits {n : Nat} {v : Json} (hfits : n < UInt64.size)
    (hvalue : ofWhole? negative n = some v) :
    readUnsigned? negative (Nat.toDigits 10 n) = some (v, []) := by
  have hdigits : Nat.ofDigitChars 10 (Nat.toDigits 10 n) 0 = n := Decimal.digitsValue_toDigits n
  have hgather : gather 0 (Nat.toDigits 10 n) = (n, []) := by
    rw [gather_of_lt (hdigits.trans_lt hfits), hdigits]
  have hassemble : assemble? negative (Nat.toDigits 10 n) none none = some v := by
    rw [assemble?, hgather, ← hvalue]
  rw [readUnsigned?, Decimal.spanDigits_of_isDigit Decimal.isDigit_of_mem_toDigits]
  dsimp only
  rw [if_neg (toDigits_not_superfluous n)]
  exact Option.bind_eq_some_iff.mpr ⟨(none, none, []), rfl, by rw [hassemble]; rfl⟩

theorem ofWhole?_natAbs (n : Integer) : ofWhole? (n.value < 0) n.value.natAbs = some (integer n) := by
  have hzero : ¬((decide (n.value < 0)) = true ∧ n.value.natAbs = 0) := by
    rw [decide_eq_true_eq]
    omega
  have hsigned : (if decide (n.value < 0) = true then -(n.value.natAbs : Int) else n.value.natAbs) = n.value := by
    by_cases hneg : n.value < 0
    · rw [decide_eq_true hneg, if_pos rfl]
      omega
    · rw [decide_eq_false hneg, if_neg (by decide)]
      omega
  rw [ofWhole?, if_neg hzero]
  simp only [hsigned]
  rw [dif_pos ⟨n.lower, n.upper⟩]

/-- An integer that fits into 64 bits is read as what it was written from. -/
theorem readNumber?_toString (n : Integer) : readNumber? (toString n.value).toList = some (integer n, []) := by
  have hfits : n.value.natAbs < UInt64.size := by
    have hlower : -(2 ^ 63) ≤ n.value := n.lower
    have hupper : n.value < 2 ^ 64 := n.upper
    have hsize : UInt64.size = 2 ^ 64 := rfl
    omega
  have hread := readUnsigned?_toDigits hfits (ofWhole?_natAbs n)
  rw [Decimal.toList_toString]
  by_cases hneg : n.value < 0
  · rw [decide_eq_true hneg] at hread
    rw [if_pos hneg]
    exact hread
  · rw [decide_eq_false hneg] at hread
    rw [if_neg hneg, readNumber?.eq_def]
    split
    · next hminus =>
      have hdigit := Decimal.isDigit_of_mem_toDigits (n := n.value.natAbs) '-' (by simp [hminus])
      exact absurd hdigit (by decide)
    · exact hread

/-- Powers of ten up to the twenty-second have no more than 53 significant bits. -/
theorem tenPow_eq {n : Nat} (hsmall : n ≤ 22) : tenPow n = Nat.pow 10 n * Binary64.one := by
  have hshort : Nat.pow 5 n < Binary64.twoPow 53 :=
    Nat.lt_of_le_of_lt (Nat.pow_le_pow_right (by decide) hsmall) (by decide)
  have hsplit : Nat.pow 10 n * Binary64.one = Nat.pow 5 n * Binary64.twoPow (n + 1074) := by
    have hten : Nat.pow 10 n = Nat.pow 5 n * Binary64.twoPow n := Nat.mul_pow 5 2 n
    rw [hten, Binary64.one, Binary64.twoPow_add, Nat.mul_assoc]
  rw [tenPow, hsplit, Binary64.roundedUnits_of_short hshort]

/-- A significand of no more than 53 bits that is scaled by a small power of ten is rounded only once, so that it
gives the double that is nearest to the number. -/
theorem scaled_eq_ofDecimal {significand : Nat} (hshort : significand < Binary64.twoPow 53) {exponent : Int}
    (hsmall : exponent.natAbs ≤ 22) :
    scaled negative significand exponent = .ofDecimal negative significand exponent := by
  obtain ⟨x, hx, rfl, hunits⟩ := Binary64.exists_ofUnits_of_short hshort negative
  have hten : tenPow exponent.natAbs = Nat.pow 10 exponent.natAbs * Binary64.one := tenPow_eq hsmall
  have hone : Nat.pow 10 0 = 1 := rfl
  rw [scaled, ofSignificand, hx, Binary64.ofDecimal_eq_ofUnits hsmall]
  by_cases hdown : exponent < 0
  · have hnone : exponent.toNat = 0 := by omega
    have hpower : (-exponent).toNat = exponent.natAbs := by omega
    rw [if_pos hdown, scaledDown, if_pos (hsmall.trans (by decide)), hten, Binary64.overUnits_mul_one, hunits, hnone,
      hpower, hone, Nat.mul_one]
  · have hnone : (-exponent).toNat = 0 := by omega
    have hpower : exponent.toNat = exponent.natAbs := by omega
    have htable : exponent ≤ maxTenPow := by
      have htop : maxTenPow = 308 := rfl
      omega
    rw [if_neg hdown, if_pos htable, hpower, hten, Binary64.timesUnits_mul_one, hunits, hnone, hone,
      Nat.mul_right_comm]

/-- The power of ten must be a small one. -/
example : scaled false 3 23 ≠ .ofDecimal false 3 23 := by decide +kernel

/-- A product is too large if the greatest double would still be the nearest to what it stands for. -/
example : scaled false 17976931348623158 292 = .infinite false ∧
    Binary64.ofDecimal false 17976931348623158 292 ≠ .infinite false := by decide +kernel

end UptimeSync.Json
