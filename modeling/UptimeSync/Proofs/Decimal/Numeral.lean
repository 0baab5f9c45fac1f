import Mathlib.Data.List.TakeDrop
import Mathlib.Data.List.TakeWhile
import UptimeSync.Decimal.Layout
import UptimeSync.Decimal.Read

namespace UptimeSync.Decimal

variable {ds cs : List Char}

theorem digitsValue_eq_ofDigitChars (ds : List Char) : digitsValue ds = Nat.ofDigitChars 10 ds 0 := rfl

theorem digitsValue_toDigits (n : Nat) : digitsValue (Nat.toDigits 10 n) = n := by
  rw [digitsValue_eq_ofDigitChars, Nat.ofDigitChars_ten_toDigits]

theorem isDigit_of_mem_toDigits {n : Nat} : ∀ c ∈ Nat.toDigits 10 n, c.isDigit = true :=
  fun _ hc => Nat.isDigit_of_mem_toDigits (by decide) (by decide) hc

theorem exists_digitChar {d : Char} (hdigit : d.isDigit = true) : ∃ k < 10, k.digitChar = d := by
  have hbounds : 48 ≤ d.toNat ∧ d.toNat ≤ 57 := Char.isDigit_iff_toNat.mp hdigit
  have hvalue : d.toNat - 48 < 10 := by omega
  refine ⟨d.toNat - 48, hvalue, Char.toNat_inj.mp ?_⟩
  rw [Nat.toNat_digitChar_of_lt_ten hvalue]
  omega

/-- Digits that are written behind a number other than zero are the last digits of what the two denote
together. -/
theorem toDigits_ofDigitChars {n : Nat} (hn : 0 < n) (hdigits : ∀ d ∈ ds, d.isDigit = true) :
    Nat.toDigits 10 (Nat.ofDigitChars 10 ds n) = Nat.toDigits 10 n ++ ds := by
  -- The number in front takes up one digit after the other, and stays positive.
  induction ds generalizing n with
  | nil => simp
  | cons d rest ih =>
    obtain ⟨hfirst, hrest⟩ := List.forall_mem_cons.mp hdigits
    obtain ⟨k, hk, rfl⟩ := exists_digitChar hfirst
    have hstep := Nat.toDigits_append_toDigits (b := 10) (by decide) hn hk
    have hpos : 0 < 10 * n + k := by omega
    rw [Nat.ofDigitChars_cons_digitChar_of_lt_ten hk, ih hpos hrest, ← hstep, Nat.toDigits_of_lt_base hk,
      List.append_assoc, List.singleton_append]

/-- The digits without the zeros at their front, or one zero if there is nothing else. -/
def withoutLeadingZeros (ds : List Char) : List Char :=
  match ds.dropWhile (· == '0') with
  | [] => ['0']
  | kept => kept

/-- A number that is written out anew has no zeros at its front. -/
theorem toDigits_digitsValue (hdigits : ∀ d ∈ ds, d.isDigit = true) :
    Nat.toDigits 10 (digitsValue ds) = withoutLeadingZeros ds := by
  rw [digitsValue_eq_ofDigitChars, withoutLeadingZeros]
  induction ds with
  | nil => rfl
  | cons d rest ih =>
    obtain ⟨hfirst, hrest⟩ := List.forall_mem_cons.mp hdigits
    obtain ⟨k, hk, rfl⟩ := exists_digitChar hfirst
    rw [Nat.ofDigitChars_cons_digitChar_of_lt_ten hk, List.dropWhile_cons]
    by_cases hzero : k = 0
    · subst hzero
      simpa using ih hrest
    · have hpos : 0 < 10 * 0 + k := by omega
      rw [toDigits_ofDigitChars hpos hrest]
      simp [hzero, Nat.toDigits_of_lt_base hk]

theorem withoutLeadingZeros_eq_self_iff (hne : ds ≠ []) :
    withoutLeadingZeros ds = ds ↔ ds = ['0'] ∨ ds.head? ≠ some '0' := by
  cases ds with
  | nil => exact absurd rfl hne
  | cons d rest =>
    by_cases hzero : d = '0'
    · subst hzero
      have hshorter : (rest.dropWhile (· == '0')).length ≤ rest.length :=
        (List.dropWhile_sublist _).length_le
      have hdropped : ('0' :: rest).dropWhile (· == '0') = rest.dropWhile (· == '0') := by simp
      rw [withoutLeadingZeros, hdropped]
      cases hkept : rest.dropWhile (· == '0') with
      | nil => simp [eq_comm]
      | cons first kept =>
        rw [hkept] at hshorter
        simp only [List.head?_cons, ne_eq, not_true, or_false]
        constructor <;> intro heq
        · have hlength := congrArg List.length heq
          simp only [List.length_cons] at hlength hshorter
          omega
        · obtain rfl : rest = [] := (List.cons.inj heq).2
          cases hkept
    · simp [withoutLeadingZeros, hzero]

theorem readNatural?_toDigits (n : Nat) : readNatural? (Nat.toDigits 10 n) = some n := by
  have hdigits : (Nat.toDigits 10 n).all Char.isDigit = true := List.all_eq_true.mpr isDigit_of_mem_toDigits
  rw [readNatural?, if_pos ⟨Nat.toDigits_ne_nil, hdigits⟩, digitsValue_toDigits]

/-- An integer is written out with a minus in front of its magnitude if it is negative. -/
theorem toList_toString (n : Int) :
    (toString n).toList = if n < 0 then '-' :: Nat.toDigits 10 n.natAbs else Nat.toDigits 10 n.natAbs := by
  rw [Int.toString_eq_repr, Int.repr_eq_if]
  by_cases hneg : n < 0
  · have habs : (-n).toNat = n.natAbs := by omega
    rw [if_neg (by omega), if_pos hneg, String.toList_append, Nat.toList_repr, habs]
    rfl
  · have habs : n.toNat = n.natAbs := by omega
    rw [if_pos (by omega), if_neg hneg, Nat.toList_repr, habs]

theorem spanDigits_of_isDigit (hdigits : ∀ d ∈ ds, d.isDigit = true) : spanDigits ds = (ds, []) := by
  rw [spanDigits, List.span_eq_takeWhile_dropWhile, List.takeWhile_eq_self_iff.mpr hdigits,
    List.dropWhile_eq_nil_iff.mpr hdigits]

/-- A digit is no sign. -/
theorem readSign_of_isDigit (hdigits : ∀ d ∈ ds, d.isDigit = true) : readSign ds = (false, ds) := by
  unfold readSign
  split
  · exact absurd (hdigits '-' List.mem_cons_self) (by decide)
  · exact absurd (hdigits '+' List.mem_cons_self) (by decide)
  · rfl

theorem readInteger?_eq (cs : List Char) :
    readInteger? cs =
      (readNatural? (readSign cs).2).map fun n : Nat => if (readSign cs).1 then -(n : Int) else n := by
  unfold readInteger?
  cases hnatural : readNatural? (readSign cs).2 <;> simp [hnatural]

theorem readInteger?_toString (n : Int) : readInteger? (toString n).toList = some n := by
  rw [toList_toString, readInteger?_eq]
  by_cases hneg : n < 0
  · have habs : -(n.natAbs : Int) = n := by omega
    rw [if_pos hneg]
    simp only [readSign, readNatural?_toDigits, Option.map_some, if_true, habs]
  · have habs : (n.natAbs : Int) = n := by omega
    rw [if_neg hneg, readSign_of_isDigit isDigit_of_mem_toDigits]
    simp only [readNatural?_toDigits, Option.map_some, Bool.false_eq_true, if_false, habs]

theorem readInt64?_of_readInteger? {n : Int64} (hread : readInteger? cs = some n.toInt) :
    readInt64? cs = some n := by
  have hfits : Int64.minValue.toInt ≤ n.toInt ∧ n.toInt ≤ Int64.maxValue.toInt :=
    ⟨n.minValue_le_toInt, n.toInt_le⟩
  have hclamped : Int64.ofIntClamp n.toInt = n := Int64.toInt_inj.mp (Int64.toInt_ofIntClamp hfits.1 hfits.2)
  simp only [readInt64?, hread, Option.bind_eq_bind, Option.bind_some, if_pos hfits, hclamped]

theorem readInt64?_toString (n : Int64) : readInt64? (toString n.toInt).toList = some n :=
  readInt64?_of_readInteger? (readInteger?_toString n.toInt)

theorem readInt64?_of_isDigit (hne : ds ≠ []) (hdigits : ∀ d ∈ ds, d.isDigit = true)
    (hfits : digitsValue ds ≤ Int64.maxValue.toInt) :
    ∃ n, readInt64? ds = some n ∧ n.toInt = digitsValue ds := by
  have hnatural : readNatural? ds = some (digitsValue ds) := by
    rw [readNatural?, if_pos ⟨hne, List.all_eq_true.mpr hdigits⟩]
  have hinteger : readInteger? ds = some (digitsValue ds : Int) := by
    rw [readInteger?_eq, readSign_of_isDigit hdigits, hnatural]
    rfl
  have hlower : Int64.minValue.toInt ≤ digitsValue ds := by
    have hnonpos : Int64.minValue.toInt ≤ 0 := by decide
    omega
  have hvalue : (Int64.ofIntClamp (digitsValue ds)).toInt = digitsValue ds := Int64.toInt_ofIntClamp hlower hfits
  exact ⟨_, readInt64?_of_readInteger? (hinteger.trans (congrArg some hvalue.symm)), hvalue⟩

/-! What numbers are read from -/

/-- Holds of the characters that decimals are written with. -/
def isNumeralChar (c : Char) : Bool :=
  c.isDigit || ['+', '-', '.', 'e', 'E'].elem c

/-- Holds of the texts that stand for a double without being a decimal, in letters of either case. -/
def isNumberWord (cs : List Char) : Bool :=
  ["inf", "infinity", "nan"].elem (String.ofList ((readSign cs).2.map Char.toLower))

theorem isNumeralChar_of_isDigit {c : Char} (hdigit : c.isDigit = true) : isNumeralChar c = true := by
  simp [isNumeralChar, hdigit]

/-- A character of a numeral is a letter only where an exponent begins. -/
theorem toLower_of_isNumeralChar {c : Char} (hchar : isNumeralChar c = true) : c.toLower ≠ 't' ∧ c.toLower ≠ 'f' := by
  obtain hdigit | hmark : c.isDigit = true ∨ c ∈ ['+', '-', '.', 'e', 'E'] := by
    simpa [isNumeralChar] using hchar
  · obtain ⟨k, hk, rfl⟩ := exists_digitChar hdigit
    revert k
    decide
  · simp only [List.mem_cons, List.not_mem_nil, or_false] at hmark
    obtain rfl | rfl | rfl | rfl | rfl := hmark <;> decide

/-- Only a sign is taken off the front. -/
theorem isNumeralChar_of_readSign (hrest : ∀ c ∈ (readSign cs).2, isNumeralChar c = true) :
    ∀ c ∈ cs, isNumeralChar c = true := by
  unfold readSign at hrest
  split at hrest
  · exact List.forall_mem_cons.mpr ⟨by decide, hrest⟩
  · exact List.forall_mem_cons.mpr ⟨by decide, hrest⟩
  · exact hrest

theorem isNumeralChar_of_readInteger? {n : Int} (hread : readInteger? cs = some n) :
    ∀ c ∈ cs, isNumeralChar c = true := by
  rw [readInteger?_eq] at hread
  obtain ⟨magnitude, hmagnitude, -⟩ := Option.map_eq_some_iff.mp hread
  rw [readNatural?] at hmagnitude
  split at hmagnitude
  next hdigits =>
    exact isNumeralChar_of_readSign fun c hc => isNumeralChar_of_isDigit (List.all_eq_true.mp hdigits.2 c hc)
  next => cases hmagnitude

theorem isNumeralChar_of_readInt64? {n : Int64} (hread : readInt64? cs = some n) :
    ∀ c ∈ cs, isNumeralChar c = true := by
  obtain ⟨m, hinteger, -⟩ := Option.bind_eq_some_iff.mp hread
  exact isNumeralChar_of_readInteger? hinteger

/-- Only digits are taken off the front. -/
theorem isNumeralChar_of_spanDigits (hrest : ∀ c ∈ (spanDigits cs).2, isNumeralChar c = true) :
    ∀ c ∈ cs, isNumeralChar c = true := by
  rw [spanDigits, List.span_eq_takeWhile_dropWhile] at hrest
  intro c hc
  rw [← List.takeWhile_append_dropWhile (p := Char.isDigit) (l := cs)] at hc
  obtain hwhole | hdropped := List.mem_append.mp hc
  · exact isNumeralChar_of_isDigit (List.mem_takeWhile_imp hwhole)
  · exact hrest c hdropped

/-- What follows the digits of a decimal is an exponent, if anything. Its reader is private to the module that
reads decimals, so that it stands here written out. -/
theorem isNumeralChar_of_readExponent {k : Int}
    (hread : (match cs with
      | [] => some 0
      | c :: rest => if c = 'e' ∨ c = 'E' then readInteger? rest else none) = some k) :
    ∀ c ∈ cs, isNumeralChar c = true := by
  cases cs with
  | nil => simp
  | cons c rest =>
    by_cases hletter : c = 'e' ∨ c = 'E'
    · rw [List.forall_mem_cons]
      simp only [if_pos hletter] at hread
      exact ⟨by obtain rfl | rfl := hletter <;> decide, isNumeralChar_of_readInteger? hread⟩
    · simp [hletter] at hread

theorem isNumeralChar_of_readMagnitude? {negative : Bool} {x : Binary64}
    (hread : readMagnitude? negative cs = some x) : ∀ c ∈ cs, isNumeralChar c = true := by
  apply isNumeralChar_of_spanDigits
  rw [readMagnitude?] at hread
  cases hspan : spanDigits cs with
  | mk whole rest =>
    simp only [hspan, Option.bind_eq_bind] at hread
    change ∀ c ∈ rest, isNumeralChar c = true
    -- The exponent stands behind the fraction if there is a point, and otherwise behind the whole digits.
    split at hread
    next _ more =>
      split at hread
      next => cases hread
      next =>
        obtain ⟨k, hexponent, -⟩ := Option.bind_eq_some_iff.mp hread
        refine List.forall_mem_cons.mpr ⟨by decide, isNumeralChar_of_spanDigits ?_⟩
        exact isNumeralChar_of_readExponent hexponent
    next =>
      split at hread
      next => cases hread
      next =>
        obtain ⟨k, hexponent, -⟩ := Option.bind_eq_some_iff.mp hread
        exact isNumeralChar_of_readExponent hexponent

theorem isNumeralChar_of_readReal? {x : Binary64} (hread : readReal? cs = some x)
    (hword : isNumberWord cs = false) : ∀ c ∈ cs, isNumeralChar c = true := by
  apply isNumeralChar_of_readSign
  rw [readReal?] at hread
  simp only [isNumberWord, List.elem_eq_mem, List.mem_cons, List.not_mem_nil, or_false, decide_eq_false_iff_not,
    not_or] at hread hword
  obtain ⟨hinf, hinfinity, hnan⟩ := hword
  split at hread
  next hword => exact absurd hword hinf
  next hword => exact absurd hword hinfinity
  next hword => exact absurd hword hnan
  next => exact isNumeralChar_of_readMagnitude? hread

/-! What numbers are written as -/

theorem isDigit_of_ofScaled (n : Nat) (lowest : Int) : ∀ c ∈ (ofScaled n lowest).digits, c.isDigit = true := by
  intro c hc
  have hkept : c ∈ (Nat.toDigits 10 n).reverse.dropWhile (· == '0') := List.mem_reverse.mp hc
  have hwritten : c ∈ Nat.toDigits 10 n := List.mem_reverse.mp ((List.dropWhile_sublist _).mem hkept)
  exact isDigit_of_mem_toDigits c hwritten

theorem isDigit_of_withDigits? {tie : Tie} {units count : Nat} {top : Int} {d : Decimal}
    (hfound : withDigits? tie units top count = some d) : ∀ c ∈ d.digits, c.isDigit = true := by
  obtain ⟨n, -, rfl⟩ := Option.map_eq_some_iff.mp hfound
  exact isDigit_of_ofScaled _ _

theorem isDigit_of_shortest (tie : Tie) (units : Nat) : ∀ c ∈ (shortest tie units).digits, c.isDigit = true := by
  unfold shortest
  generalize leadingExponent units Binary64.one = top
  dsimp only
  cases hfound : List.findSome? _ _ with
  | none => exact isDigit_of_ofScaled _ _
  | some d =>
    obtain ⟨i, -, hi⟩ := List.exists_of_findSome?_eq_some hfound
    exact isDigit_of_withDigits? hi

theorem isDigit_of_positional {d : Decimal} (hdigits : ∀ c ∈ d.digits, c.isDigit = true) :
    (∀ c ∈ d.positional.1, c.isDigit = true) ∧ ∀ c ∈ d.positional.2, c.isDigit = true := by
  have hzeros (n : Nat) : ∀ c ∈ List.replicate n '0', c.isDigit = true := by
    intro c hc
    rw [List.eq_of_mem_replicate hc]
    rfl
  unfold positional
  split
  · refine ⟨fun c hc => ?_, fun c hc => hdigits c (List.mem_of_mem_drop hc)⟩
    obtain hkept | hzero := List.mem_append.mp hc
    · exact hdigits c (List.mem_of_mem_take hkept)
    · exact hzeros _ c hzero
  · refine ⟨by simp, fun c hc => ?_⟩
    obtain hzero | hkept := List.mem_append.mp hc
    · exact hzeros _ c hzero
    · exact hdigits c hkept

theorem isDigit_or_point_of_plain {d : Decimal} (hdigits : ∀ c ∈ d.digits, c.isDigit = true) :
    ∀ c ∈ d.plain, c.isDigit = true ∨ c = '.' := by
  obtain ⟨hwhole, hfraction⟩ := isDigit_of_positional hdigits
  intro c hc
  unfold plain at hc
  split at hc
  next heq =>
    rw [heq] at hwhole
    exact .inl (hwhole c hc)
  next heq =>
    rw [heq] at hwhole hfraction
    rw [List.mem_append, List.mem_cons] at hc
    obtain hc | rfl | hc := hc
    · exact .inl (hwhole c hc)
    · exact .inr rfl
    · exact .inl (hfraction c hc)

theorem toList_display (x : Binary64.Finite) :
    (Binary64.finite x).display.toList =
      let magnitude := if x.units = 0 then ['0'] else (shortest .away x.units).plain
      if x.negative then '-' :: magnitude else magnitude :=
  String.toList_ofList

/-- A sign adds neither a plus nor an exponent to digits and a point. -/
theorem not_mem_signed {p : Prop} [Decidable p] {magnitude : List Char}
    (hmagnitude : ∀ c ∈ magnitude, c.isDigit = true ∨ c = '.') :
    ∀ c ∈ ['+', 'e', 'E'], c ∉ if p then '-' :: magnitude else magnitude := by
  intro c hc hwritten
  have hchar : c = '-' ∨ c.isDigit = true ∨ c = '.' := by
    split at hwritten
    · obtain rfl | hmem := List.mem_cons.mp hwritten
      · exact .inl rfl
      · exact .inr (hmagnitude c hmem)
    · exact .inr (hmagnitude c hwritten)
  obtain rfl | rfl | rfl : c = '+' ∨ c = 'e' ∨ c = 'E' := by simpa using hc
  all_goals exact absurd hchar (by decide)

theorem not_mem_toString (n : Int) : ∀ c ∈ ['+', 'e', 'E'], c ∉ (toString n).toList := by
  rw [toList_toString]
  exact not_mem_signed fun c hc => .inl (isDigit_of_mem_toDigits c hc)

/-- Numbers are written out without a plus sign and without an exponent. -/
theorem not_mem_display (x : Binary64) : ∀ c ∈ ['+', 'e', 'E'], c ∉ x.display.toList := by
  cases x with
  | infinite negative => cases negative <;> simp [Binary64.display]
  | nan => simp [Binary64.display]
  | finite x =>
    rw [toList_display]
    refine not_mem_signed fun c hc => ?_
    split at hc
    · exact .inl (by simp [List.mem_singleton.mp hc])
    · exact isDigit_or_point_of_plain (isDigit_of_shortest _ _) c hc

end UptimeSync.Decimal
