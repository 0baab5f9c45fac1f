import UptimeSync.Config.Environment
import UptimeSync.Proofs.Decimal.Numeral

namespace UptimeSync.Config.Environment

open Decimal

/-- Holds of the words for flags, in letters of either case. -/
def isFlagWord (text : String) : Bool :=
  ["true", "false"].elem (Text.lowerAscii text)

/-- Holds of the texts that stand for an integer of 64 bits or for a double. -/
def isNumber (text : String) : Bool :=
  (readInt64? text.toList).isSome || (readReal? text.toList).isSome

/-- Holds of the texts that a setting for a text has just as a variable gives them: flags in lower case, numbers
that are given in the form in which they are written out, and whatever is neither. -/
inductive Literal : String → Prop where
  | flag (b : Bool) : Literal (if b then "true" else "false")
  | integer (n : Int64) : Literal (toString n.toInt)
  | real {text : String} {x : Binary64} : isFlagWord text = false → readInt64? text.toList = none →
      readReal? text.toList = some x → x.display = text → Literal text
  | other {text : String} : isFlagWord text = false → isNumber text = false → Literal text

variable {text : String}

theorem value_of_isFlagWord (hflag : isFlagWord text = true) : ∃ b, value text = .flag b := by
  unfold value
  split
  · exact ⟨true, rfl⟩
  · exact ⟨false, rfl⟩
  · simp_all [isFlagWord]

theorem value_of_not_isFlagWord (hflag : isFlagWord text = false) :
    value text = match readInt64? text.toList, readReal? text.toList with
      | some n, _ => .integer n
      | none, some x => .real x
      | none, none => .text text := by
  unfold value
  split
  · simp_all [isFlagWord]
  · simp_all [isFlagWord]
  · rfl

/-- No word for a flag can be written with the characters of numerals. -/
theorem not_isFlagWord_of_isNumeralChar (hchars : ∀ c ∈ text.toList, isNumeralChar c = true) :
    isFlagWord text = false := by
  have hletters : ∀ c ∈ (Text.lowerAscii text).toList, c ≠ 't' ∧ c ≠ 'f' := by
    intro c hc
    rw [Text.lowerAscii, String.toList_map] at hc
    obtain ⟨written, hwritten, rfl⟩ := List.mem_map.mp hc
    exact toLower_of_isNumeralChar (hchars written hwritten)
  cases hflag : isFlagWord text with
  | false => rfl
  | true =>
    have hword : Text.lowerAscii text = "true" ∨ Text.lowerAscii text = "false" := by
      simpa [isFlagWord] using hflag
    obtain hword | hword := hword
    · exact absurd rfl (hletters 't' (by simp [hword])).1
    · exact absurd rfl (hletters 'f' (by simp [hword])).2

theorem value_of_readInt64? {n : Int64} (hread : readInt64? text.toList = some n) :
    value text = .integer n := by
  have hflag : isFlagWord text = false := not_isFlagWord_of_isNumeralChar (isNumeralChar_of_readInt64? hread)
  rw [value_of_not_isFlagWord hflag, hread]

/-- A setting for a text has what a variable gives for it just as it is given if and only if that is written in
the form in which it is written out. -/
theorem toText?_value_eq_some_iff : (value text).toText? = some text ↔ Literal text := by
  constructor
  · intro hsame
    cases hflag : isFlagWord text with
    | true =>
      obtain ⟨b, hvalue⟩ := value_of_isFlagWord hflag
      rw [hvalue] at hsame
      exact Option.some.inj hsame ▸ .flag b
    | false =>
      rw [value_of_not_isFlagWord hflag] at hsame
      cases hinteger : readInt64? text.toList with
      | some n =>
        rw [hinteger] at hsame
        exact Option.some.inj hsame ▸ .integer n
      | none =>
        cases hreal : readReal? text.toList with
        | some x =>
          rw [hinteger, hreal] at hsame
          exact .real hflag hinteger hreal (Option.some.inj hsame)
        | none => exact .other hflag (by simp [isNumber, hinteger, hreal])
  · intro hliteral
    cases hliteral with
    | flag b => cases b <;> decide +kernel
    | integer n => rw [value_of_readInt64? (readInt64?_toString n), Value.toText?]
    | real hflag hinteger hreal hsame =>
      rw [value_of_not_isFlagWord hflag, hinteger, hreal]
      exact congrArg some hsame
    | other hflag hnumber =>
      have hnone : readInt64? text.toList = none ∧ readReal? text.toList = none := by
        simpa [isNumber] using hnumber
      rw [value_of_not_isFlagWord hflag, hnone.1, hnone.2]
      rfl

/-- Digits that fit into an integer are written out without the zeros at their front. -/
theorem toText?_value_of_isDigit (hne : text ≠ "") (hdigits : ∀ c ∈ text.toList, c.isDigit = true)
    (hfits : digitsValue text.toList ≤ Int64.maxValue.toInt) :
    (value text).toText? = some (String.ofList (withoutLeadingZeros text.toList)) := by
  obtain ⟨n, hread, hvalue⟩ := readInt64?_of_isDigit (by simpa using hne) hdigits hfits
  have hwritten : (toString n.toInt).toList = withoutLeadingZeros text.toList := by
    rw [hvalue, toList_toString, if_neg (by omega), Int.natAbs_natCast, toDigits_digitsValue hdigits]
  rw [value_of_readInt64? hread, Value.toText?, ← hwritten, String.ofList_toList]

theorem literal_iff_of_isDigit (hne : text ≠ "") (hdigits : ∀ c ∈ text.toList, c.isDigit = true)
    (hfits : digitsValue text.toList ≤ Int64.maxValue.toInt) :
    Literal text ↔ text.toList = ['0'] ∨ text.toList.head? ≠ some '0' := by
  have hchars : text.toList ≠ [] := by simpa using hne
  rw [← toText?_value_eq_some_iff, toText?_value_of_isDigit hne hdigits hfits, Option.some_inj,
    ← withoutLeadingZeros_eq_self_iff hchars, ← String.toList_inj, String.toList_ofList]

/-- A text with a character that numerals do not have is literal, unless it is a word for a flag or a number. -/
theorem literal_of_mem {c : Char} (hc : c ∈ text.toList) (hchar : isNumeralChar c = false)
    (hflag : isFlagWord text = false) (hword : isNumberWord text.toList = false) : Literal text := by
  have hinteger : readInt64? text.toList = none := by
    rw [Option.eq_none_iff_forall_ne_some]
    intro n hread
    simp [isNumeralChar_of_readInt64? hread c hc] at hchar
  have hreal : readReal? text.toList = none := by
    rw [Option.eq_none_iff_forall_ne_some]
    intro x hread
    simp [isNumeralChar_of_readReal? hread hword c hc] at hchar
  exact .other hflag (by simp [isNumber, hinteger, hreal])

/-- A number with a plus sign or an exponent is not literal, since none is written out with one. -/
theorem not_literal_of_mem {c : Char} (hc : c ∈ text.toList) (hchar : c ∈ ['+', 'e', 'E'])
    (hnumber : isNumber text = true) : ¬Literal text := by
  intro hliteral
  cases hliteral with
  | flag b => cases b <;> exact absurd hnumber (by decide)
  | integer n => exact not_mem_toString _ c hchar hc
  | real _ _ _ hsame => exact not_mem_display _ c hchar (hsame ▸ hc)
  | other _ hnone => simp [hnone] at hnumber

-- A password of this form is read as a number with an exponent.
example : (value "1e3").toText? = some "1000" := by decide +kernel

end UptimeSync.Config.Environment
