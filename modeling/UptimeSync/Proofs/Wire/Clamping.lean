import UptimeSync.Proofs.Decimal.Integer
import UptimeSync.Proofs.Decimal.Truncation
import UptimeSync.Proofs.Wire.ScalarList

namespace UptimeSync

theorem Scalar.textToInt_of_spells {n : Int} {s : String} (hspells : Decimal.Spells n s) :
    textToInt s = .ok (Int64.ofIntClamp n) := by
  have hnumeral : Decimal.Numeral n (Text.trim s).toList := by
    rw [Text.trim, String.toList_ofList]
    exact Decimal.spells_iff.mp hspells
  rw [textToInt]
  simp only [if_neg hnumeral.ne_nil]
  by_cases hfits : Int64.minValue.toInt ≤ n ∧ n ≤ Int64.maxValue.toInt
  · have hvalue : (Int64.ofIntClamp n).toInt = n := Int64.toInt_ofIntClamp hfits.1 hfits.2
    rw [Decimal.readInt64?_eq_some_iff.mpr (hvalue.symm ▸ hnumeral)]
  · -- What is too large for 64 bits is read as a double, which is rounded, but not to below the bound.
    obtain ⟨negative, hsign, hreal⟩ := hnumeral.readReal?
    have hbounds : Int64.minValue.toInt = -(Binary64.twoPow 63 : Int) ∧
      Int64.maxValue.toInt + 1 = (Binary64.twoPow 63 : Int) := by decide
    have hlarge : Binary64.twoPow 63 ≤ n.natAbs := by omega
    rw [Decimal.readInt64?_eq_none hnumeral (by omega), hreal]
    dsimp only
    rw [Binary64.truncate_ofDecimal hlarge]
    cases negative with
    | true =>
      have hsign : -(n.natAbs : Int) = n := hsign
      rw [if_pos rfl, Int64.ofIntClamp_of_le_minValue (by omega)]
    | false =>
      have hsign : (n.natAbs : Int) = n := hsign
      rw [if_neg Bool.false_ne_true, Int64.ofIntClamp_of_maxValue_le (by omega)]

namespace Json

/-- Holds of the values that stand for an integer: the number, and the texts that spell it. -/
inductive StandsFor (n : Int) : Json → Prop where
  | number {i : Integer} (hvalue : i.value = n) : StandsFor n (.integer i)
  | text {s : String} (hspells : Decimal.Spells n s) : StandsFor n (.string s)

variable {n : Int} {v : Json}

theorem StandsFor.isScalar (hstands : v.StandsFor n) : v.isScalar = true := by
  cases hstands <;> rfl

theorem looseOptInt_integer (i : Integer) : (integer i).looseOptInt = .ok (some (Int64.ofIntClamp i.value)) := by
  rw [looseOptInt, Scalar.ofJson, Except.ok_bind]
  split
  next => rw [Scalar.toInt?]
  next hlarge =>
    rw [Scalar.toInt?, Binary64.truncate_ofInt (by omega), Int64.ofIntClamp_of_maxValue_le (by omega)]

theorem looseOptInt_of_standsFor (hstands : v.StandsFor n) : v.looseOptInt = .ok (some (Int64.ofIntClamp n)) := by
  cases hstands with
  | number hvalue => rw [looseOptInt_integer, hvalue]
  | text hspells =>
    rw [looseOptInt_string, Scalar.textToInt_of_spells hspells]
    rfl

theorem looseInt_of_standsFor (hstands : v.StandsFor n) : v.looseInt = .ok (Int64.ofIntClamp n) := by
  rw [looseInt, looseOptInt_of_standsFor hstands]
  rfl

theorem looseInts_of_standsFor (hstands : v.StandsFor n) : v.looseInts = .ok [Int64.ofIntClamp n] := by
  have hscalar : v.isScalar = true ∧ v.isNull = false := by cases hstands <;> exact ⟨rfl, rfl⟩
  rw [looseInts_readsScalars.lone v hscalar.1, looseInts_readsScalars.items, List.filter_cons, hscalar.2]
  exact .cons (looseInt_of_standsFor hstands) .nil

/-- The text that an integer is read as stands for it. -/
theorem looseOptText_ofInt64 (n : Int64) :
    ∃ s, (ofInt64 n).looseOptText = .ok (some s) ∧ (string s).StandsFor n.toInt := by
  refine ⟨toString n.toInt, ?_, .text (Decimal.spells_toString n.toInt)⟩
  rw [looseOptText, Scalar.ofJson_ofInt64]
  rfl

/-- An integer that is sent as a number or as text, with blanks around it, a sign and zeros at its front, is read as
the integer of 64 bits that is nearest to it. So a number and its text are always read alike, and what an integer is
as text is read as that integer. -/
theorem integers_clamped :
    (∀ (n : Int) (v : Json), v.StandsFor n →
      ∃ m : Int64, m.toInt = max Int64.minValue.toInt (min n Int64.maxValue.toInt) ∧
        v.looseInt = .ok m ∧ v.looseOptInt = .ok (some m) ∧ v.looseInts = .ok [m]) ∧
    (∀ (n : Int) (v w : Json), v.StandsFor n → w.StandsFor n →
      v.looseInt = w.looseInt ∧ v.looseOptInt = w.looseOptInt) ∧
    ∀ n : Int64, ∃ s, (ofInt64 n).looseText = .ok s ∧ (ofInt64 n).looseOptText = .ok (some s) ∧
      (string s).looseInt = .ok n ∧ (string s).looseOptInt = .ok (some n) := by
  refine ⟨fun n v hv => ?_, fun n v w hv hw => ?_, fun n => ?_⟩
  · exact ⟨Int64.ofIntClamp n, Int64.toInt_ofIntClamp_eq n, looseInt_of_standsFor hv, looseOptInt_of_standsFor hv,
      looseInts_of_standsFor hv⟩
  · rw [looseInt_of_standsFor hv, looseInt_of_standsFor hw, looseOptInt_of_standsFor hv,
      looseOptInt_of_standsFor hw]
    exact ⟨rfl, rfl⟩
  · obtain ⟨s, htext, hstands⟩ := looseOptText_ofInt64 n
    have hclamp : Int64.ofIntClamp n.toInt = n := Int64.ofIntClamp_toInt n
    refine ⟨s, ?_, htext, ?_, ?_⟩
    · rw [looseText, htext]
      rfl
    · rw [looseInt_of_standsFor hstands, hclamp]
    · rw [looseOptInt_of_standsFor hstands, hclamp]

/-- The first integer below the range of 64 bits, with zeros and blanks around it. -/
theorem padded_integer_clamped :
    let spelled := string "\u2003-009223372036854775809\n"
    spelled.StandsFor (-9223372036854775809) ∧ spelled.looseInt = .ok Int64.minValue := by
  intro spelled
  have hstands : spelled.StandsFor (-9223372036854775809) := by
    have hfront : Text.Blanks ['\u2003'] := by decide
    have hback : Text.Blanks ['\n'] := by decide
    have hnumeral := Decimal.Numeral.mk (n := -9223372036854775809) (.minus (by decide)) 2
    exact .text (.mk hfront hnumeral hback)
  obtain ⟨m, hm, hread, -⟩ := integers_clamped.1 _ _ hstands
  have hmin : m = Int64.minValue := Int64.toInt_inj.mp hm
  exact ⟨hstands, hmin ▸ hread⟩

end Json
end UptimeSync
