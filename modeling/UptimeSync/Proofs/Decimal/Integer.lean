import UptimeSync.Proofs.Decimal.Numeral
import UptimeSync.Proofs.Text.Blank

namespace UptimeSync.Decimal

/-- Holds of the signs that an integer can be written with. -/
inductive Sign (n : Int) : List Char → Prop where
  | none (hn : 0 ≤ n) : Sign n []
  | plus (hn : 0 ≤ n) : Sign n ['+']
  | minus (hn : n ≤ 0) : Sign n ['-']

/-- The digits of a magnitude behind a number of zeros. -/
def padded (zeros magnitude : Nat) : List Char :=
  List.replicate zeros '0' ++ Nat.toDigits 10 magnitude

/-- Holds of the numerals of an integer: a sign and the digits of its magnitude, with any number of zeros in
front of these. -/
inductive Numeral (n : Int) : List Char → Prop where
  | mk {sign : List Char} (hsign : Sign n sign) (zeros : Nat) : Numeral n (sign ++ padded zeros n.natAbs)

/-- Holds of the texts that spell an integer: a numeral of it, with blanks around it. -/
inductive Spells (n : Int) : String → Prop where
  | mk {front numeral back : List Char} (hfront : Text.Blanks front) (hnumeral : Numeral n numeral)
      (hback : Text.Blanks back) : Spells n (String.ofList (front ++ numeral ++ back))

variable {ds cs : List Char} {n : Int}

theorem isDigit_of_padded (zeros magnitude : Nat) : ∀ c ∈ padded zeros magnitude, c.isDigit = true := by
  intro c hc
  obtain hzero | hdigit := List.mem_append.mp hc
  · rw [List.eq_of_mem_replicate hzero]
    rfl
  · exact isDigit_of_mem_toDigits c hdigit

theorem padded_ne_nil (zeros magnitude : Nat) : padded zeros magnitude ≠ [] :=
  List.append_ne_nil_of_right_ne_nil _ Nat.toDigits_ne_nil

theorem digitsValue_padded (zeros magnitude : Nat) : digitsValue (padded zeros magnitude) = magnitude := by
  rw [digitsValue_eq_ofDigitChars, padded, Nat.ofDigitChars_append, Nat.ofDigitChars_replicate_zero, Nat.mul_zero,
    Nat.ofDigitChars_ten_toDigits]

/-- Digits are those of the number that they denote, behind zeros. -/
theorem exists_eq_padded (hne : ds ≠ []) (hdigits : ∀ d ∈ ds, d.isDigit = true) :
    ∃ zeros, ds = padded zeros (digitsValue ds) := by
  have hzeros : ds.takeWhile (· == '0') = List.replicate (ds.takeWhile (· == '0')).length '0' :=
    List.eq_replicate_iff.mpr ⟨rfl, fun c hc => by simpa using List.mem_takeWhile_imp hc⟩
  have hsplit : ds.takeWhile (· == '0') ++ ds.dropWhile (· == '0') = ds := List.takeWhile_append_dropWhile
  simp only [padded, toDigits_digitsValue hdigits, withoutLeadingZeros]
  cases hkept : ds.dropWhile (· == '0') with
  | cons first rest =>
    refine ⟨(ds.takeWhile (· == '0')).length, ?_⟩
    rw [hkept] at hsplit
    exact hsplit.symm.trans (congrArg (· ++ first :: rest) hzeros)
  | nil =>
    -- All are zeros, and the last of them stands for the number.
    rw [hkept, List.append_nil] at hsplit
    rw [hsplit] at hzeros
    have hpos : ds.length - 1 + 1 = ds.length := Nat.sub_add_cancel (List.length_pos_of_ne_nil hne)
    refine ⟨ds.length - 1, ?_⟩
    rw [← List.replicate_succ', hpos, ← hzeros]

theorem readNatural?_eq_some_iff {k : Nat} : readNatural? ds = some k ↔ ∃ zeros, ds = padded zeros k := by
  rw [readNatural?]
  constructor
  · intro hread
    split at hread
    next hdigits =>
      obtain rfl := Option.some.inj hread
      exact exists_eq_padded hdigits.1 (List.all_eq_true.mp hdigits.2)
    next => cases hread
  · rintro ⟨zeros, rfl⟩
    rw [if_pos ⟨padded_ne_nil zeros k, List.all_eq_true.mpr (isDigit_of_padded zeros k)⟩, digitsValue_padded]

/-- A sign that is taken off the front is one of the number's. -/
theorem exists_sign (cs : List Char) (k : Nat) :
    ∃ sign, Sign (if (readSign cs).1 then -(k : Int) else k) sign ∧ cs = sign ++ (readSign cs).2 := by
  unfold readSign
  split
  · exact ⟨['-'], .minus (by simp), rfl⟩
  · exact ⟨['+'], .plus (by simp), rfl⟩
  · exact ⟨[], .none (by simp), rfl⟩

theorem Sign.readSign_append {sign : List Char} (hsign : Sign n sign) (hdigits : ∀ d ∈ ds, d.isDigit = true) :
    (readSign (sign ++ ds)).2 = ds ∧
      (if (readSign (sign ++ ds)).1 then -(n.natAbs : Int) else n.natAbs) = n := by
  cases hsign with
  | none hn =>
    rw [List.nil_append, readSign_of_isDigit hdigits]
    exact ⟨rfl, Int.natAbs_of_nonneg hn⟩
  | plus hn => exact ⟨rfl, Int.natAbs_of_nonneg hn⟩
  | minus hn => exact ⟨rfl, (congrArg Neg.neg (Int.ofNat_natAbs_of_nonpos hn)).trans (Int.neg_neg n)⟩

/-- What an integer is read from, whatever its size. -/
theorem readInteger?_eq_some_iff : readInteger? cs = some n ↔ Numeral n cs := by
  rw [readInteger?_eq, Option.map_eq_some_iff]
  simp only [readNatural?_eq_some_iff]
  constructor
  · rintro ⟨k, ⟨zeros, hdigits⟩, hvalue⟩
    obtain ⟨sign, hsign, hsplit⟩ := exists_sign cs k
    rw [hvalue] at hsign
    have habs : n.natAbs = k := by split at hvalue <;> omega
    rw [hsplit, hdigits, ← habs]
    exact .mk hsign zeros
  · rintro ⟨hsign, zeros⟩
    obtain ⟨hdigits, hvalue⟩ := hsign.readSign_append (isDigit_of_padded zeros n.natAbs)
    exact ⟨n.natAbs, ⟨zeros, hdigits⟩, hvalue⟩

/-- What an integer of 64 bits is read from. -/
theorem readInt64?_eq_some_iff {m : Int64} : readInt64? cs = some m ↔ Numeral m.toInt cs := by
  rw [← readInteger?_eq_some_iff]
  refine ⟨fun hread => ?_, readInt64?_of_readInteger?⟩
  obtain ⟨k, hinteger, hfits⟩ := Option.bind_eq_some_iff.mp hread
  split at hfits
  next hbounds => rw [hinteger, ← Option.some.inj hfits, Int64.toInt_ofIntClamp hbounds.1 hbounds.2]
  next => cases hfits

theorem readInt64?_eq_none (hnumeral : Numeral n cs) (hlarge : n < Int64.minValue.toInt ∨ Int64.maxValue.toInt < n) :
    readInt64? cs = none := by
  have hbounds : ¬(Int64.minValue.toInt ≤ n ∧ n ≤ Int64.maxValue.toInt) := by omega
  simp only [readInt64?, readInteger?_eq_some_iff.mpr hnumeral, Option.bind_eq_bind, Option.bind_some, if_neg hbounds]

theorem not_isBlank_of_isNumeralChar {c : Char} (hchar : isNumeralChar c = true) : Text.isBlank c = false := by
  obtain hdigit | hmark : c.isDigit = true ∨ c ∈ ['+', '-', '.', 'e', 'E'] := by
    simpa [isNumeralChar] using hchar
  · obtain ⟨k, hk, rfl⟩ := exists_digitChar hdigit
    clear hchar hdigit
    revert k
    decide
  · have hmarks : ['+', '-', '.', 'e', 'E'].all (!Text.isBlank ·) = true := by decide
    simpa using List.all_eq_true.mp hmarks c hmark

/-- Every character of a numeral can be seen. -/
theorem Numeral.not_isBlank (hnumeral : Numeral n cs) : ∀ c ∈ cs, Text.isBlank c = false := fun c hc =>
  not_isBlank_of_isNumeralChar (isNumeralChar_of_readInteger? (readInteger?_eq_some_iff.mpr hnumeral) c hc)

theorem Numeral.ne_nil (hnumeral : Numeral n cs) : cs ≠ [] := by
  cases hnumeral with
  | mk hsign zeros => exact List.append_ne_nil_of_right_ne_nil _ (padded_ne_nil _ _)

/-- A text spells an integer just if a numeral of it is left without the blanks around it. -/
theorem spells_iff {text : String} : Spells n text ↔ Numeral n (Text.trimmed text.toList) := by
  constructor
  · rintro ⟨hfront, hnumeral, hback⟩
    rwa [String.toList_ofList, Text.trimmed_between hfront hback hnumeral.not_isBlank]
  · intro hnumeral
    obtain ⟨front, back, hfront, hback, hsplit⟩ := Text.exists_blanks_trimmed text.toList
    rw [← String.ofList_toList (s := text), hsplit]
    exact .mk hfront hnumeral hback

theorem spells_toString (n : Int) : Spells n (toString n) := by
  have hnumeral : Numeral n (toString n).toList := readInteger?_eq_some_iff.mp (readInteger?_toString n)
  rw [spells_iff, Text.trimmed_of_shown hnumeral.not_isBlank]
  exact hnumeral

/-- Digits alone are a whole number. -/
theorem readMagnitude?_of_isDigit (hne : ds ≠ []) (hdigits : ∀ d ∈ ds, d.isDigit = true) (negative : Bool) :
    readMagnitude? negative ds = some (Binary64.ofDecimal negative (digitsValue ds) 0) := by
  rw [readMagnitude?, spanDigits_of_isDigit hdigits]
  simp only [List.append_nil, and_true, if_neg hne]
  rfl

theorem toLower_of_isDigit {c : Char} (hdigit : c.isDigit = true) : c.toLower = c := by
  obtain ⟨k, hk, rfl⟩ := exists_digitChar hdigit
  clear hdigit
  revert k
  decide

/-- No word for a number is made of digits. -/
theorem readReal?_of_isDigit (hrest : (readSign cs).2 = ds) (hne : ds ≠ []) (hdigits : ∀ d ∈ ds, d.isDigit = true) :
    readReal? cs = some (Binary64.ofDecimal (readSign cs).1 (digitsValue ds) 0) := by
  have hlower : ds.map Char.toLower = ds :=
    (List.map_congr_left fun d hd => toLower_of_isDigit (hdigits d hd)).trans (List.map_id' ds)
  have hword {first : Char} {rest : List Char} (hfirst : first.isDigit = false) :
      String.ofList ds ≠ String.ofList (first :: rest) := by
    intro heq
    rw [String.ofList_injective heq] at hdigits
    rw [hdigits first List.mem_cons_self] at hfirst
    cases hfirst
  rw [readReal?]
  simp only [hrest, hlower]
  split
  next heq => exact absurd heq (hword rfl)
  next heq => exact absurd heq (hword rfl)
  next heq => exact absurd heq (hword rfl)
  next => exact readMagnitude?_of_isDigit hne hdigits _

/-- A numeral of any size can be read as a double, to which its magnitude is rounded. -/
theorem Numeral.readReal? (hnumeral : Numeral n cs) :
    ∃ negative : Bool, (if negative then -(n.natAbs : Int) else n.natAbs) = n ∧
      Decimal.readReal? cs = some (Binary64.ofDecimal negative n.natAbs 0) := by
  obtain ⟨hsign, zeros⟩ := hnumeral
  obtain ⟨hdigits, hvalue⟩ := hsign.readSign_append (isDigit_of_padded zeros n.natAbs)
  refine ⟨_, hvalue, ?_⟩
  rw [readReal?_of_isDigit hdigits (padded_ne_nil zeros _) (isDigit_of_padded zeros _), digitsValue_padded]

end UptimeSync.Decimal
