import UptimeSync.Proofs.Action.Timeout
import UptimeSync.Proofs.Json.Lookup
import UptimeSync.Proofs.Text.Search

namespace UptimeSync

namespace Text

/-- The hexadecimal digits, with the letters among them in either case. -/
def hexDigits : List Char := "0123456789abcdefABCDEF".toList

/-- Holds of the text of a color, which is `#rgb` or `#rrggbb`. -/
def HexColor (s : String) : Prop :=
  ∃ digits, s.toList = '#' :: digits ∧ (digits.length = 3 ∨ digits.length = 6) ∧ ∀ c ∈ digits, c ∈ hexDigits

theorem isHexDigit_iff_toNat {c : Char} :
    isHexDigit c = true ↔
      48 ≤ c.toNat ∧ c.toNat ≤ 57 ∨ 97 ≤ c.toNat ∧ c.toNat ≤ 102 ∨ 65 ≤ c.toNat ∧ c.toNat ≤ 70 := by
  simp only [isHexDigit, Bool.or_eq_true, Bool.and_eq_true, decide_eq_true_eq, or_assoc]
  exact Iff.rfl

theorem isHexDigit_iff {c : Char} : isHexDigit c = true ↔ c ∈ hexDigits := by
  constructor
  · have hdigits : ∀ n < 103, 48 ≤ n ∧ n ≤ 57 ∨ 97 ≤ n ∧ n ≤ 102 ∨ 65 ≤ n ∧ n ≤ 70 →
        Char.ofNat n ∈ hexDigits := by decide
    intro hdigit
    rw [isHexDigit_iff_toNat] at hdigit
    rw [← Char.ofNat_toNat c]
    exact hdigits c.toNat (by omega) hdigit
  · have hall : hexDigits.all isHexDigit = true := by decide
    exact List.all_eq_true.mp hall c

theorem utf8Size_of_isHexDigit {c : Char} (hdigit : isHexDigit c = true) : c.utf8Size = 1 := by
  have hbounds := isHexDigit_iff_toNat.mp hdigit
  have hascii : c.toNat ≤ 127 := by omega
  exact Char.utf8Size_eq_one_iff.mpr hascii

/-- Hexadecimal digits take up one byte each, so that it makes no difference whether they or their bytes are
counted. -/
theorem utf8ByteSize_of_isHexDigit {digits : List Char} (hall : ∀ c ∈ digits, isHexDigit c = true) :
    (String.ofList digits).utf8ByteSize = digits.length := by
  induction digits with
  | nil => rfl
  | cons c rest ih =>
    obtain ⟨hfirst, hrest⟩ := List.forall_mem_cons.mp hall
    rw [String.ofList_cons, String.utf8ByteSize_append, String.utf8ByteSize_singleton, ih hrest,
      utf8Size_of_isHexDigit hfirst, List.length_cons, Nat.add_comm]

/-- A color is told by the bytes and the digits behind its `#`. Other characters may take up three or six bytes,
but they are no digits. -/
theorem isHexColor_iff {s : String} : isHexColor s = true ↔ HexColor s := by
  constructor
  · intro hcolor
    unfold isHexColor at hcolor
    split at hcolor
    · next digits hdigits =>
      obtain ⟨hsize, hall⟩ := Bool.and_eq_true_iff.mp hcolor
      rw [List.all_eq_true] at hall
      rw [utf8ByteSize_of_isHexDigit hall] at hsize
      exact ⟨digits, hdigits, by simpa using hsize, fun c hc => isHexDigit_iff.mp (hall c hc)⟩
    · cases hcolor
  · rintro ⟨digits, hdigits, hlength, hmem⟩
    have hall : ∀ c ∈ digits, isHexDigit c = true := fun c hc => isHexDigit_iff.mpr (hmem c hc)
    rw [isHexColor, hdigits]
    simp only [utf8ByteSize_of_isHexDigit hall, Bool.and_eq_true, List.all_eq_true]
    exact ⟨by simpa using hlength, hall⟩

end Text

namespace Tag

/-- Holds of a tag that keeps every rule. -/
structure Valid (t : Tag) : Prop where
  id : 0 ≤ t.id.toInt
  name : Text.Visible t.name
  color : Text.HexColor t.color

/-- The errors of a tag that breaks a rule. Of several rules only the first counts. -/
inductive Refusal (t : Tag) : Error → Prop where
  | id (hid : t.id.toInt < 0) : Refusal t (.invalidField "id" s!"must not be negative, got {t.id.toInt}")
  | name (hid : 0 ≤ t.id.toInt) (hname : ¬Text.Visible t.name) :
      Refusal t (.invalidField "name" "must not be empty")
  | color (hid : 0 ≤ t.id.toInt) (hname : Text.Visible t.name) (hcolor : ¬Text.HexColor t.color) :
      Refusal t (.invalidField "color" s!"'{t.color}' is not a hex color")

variable {t : Tag} {e : Error}

theorem valid_or_refusal (t : Tag) : t.Valid ∨ ∃ e, t.Refusal e := by
  by_cases hid : 0 ≤ t.id.toInt
  · by_cases hname : Text.Visible t.name
    · by_cases hcolor : Text.HexColor t.color
      · exact .inl ⟨hid, hname, hcolor⟩
      · exact .inr ⟨_, .color hid hname hcolor⟩
    · exact .inr ⟨_, .name hid hname⟩
  · exact .inr ⟨_, .id (Int.not_le.mp hid)⟩

theorem id_neg_iff : t.id < 0 ↔ t.id.toInt < 0 := by
  rw [Int64.lt_iff_toInt_lt, Int64.toInt_zero]

theorem not_id_neg_iff : ¬t.id < 0 ↔ 0 ≤ t.id.toInt :=
  (not_congr id_neg_iff).trans Int.not_lt

theorem Valid.validate (hvalid : t.Valid) : t.validate = .ok () := by
  have hname := Text.isAllBlank_eq_false_iff.mpr hvalid.name
  have hcolor := Text.isHexColor_iff.mpr hvalid.color
  rw [Tag.validate, violation?, if_neg (not_id_neg_iff.mpr hvalid.id), hname, hcolor]
  rfl

theorem Refusal.validate (hrefusal : t.Refusal e) : t.validate = .error e := by
  cases hrefusal with
  | id hid =>
    rw [Tag.validate, violation?, if_pos (id_neg_iff.mpr hid)]
    rfl
  | name hid hname =>
    have hblank : Text.isAllBlank t.name = true := by
      rwa [← Text.isAllBlank_eq_false_iff, Bool.not_eq_false] at hname
    rw [Tag.validate, violation?, if_neg (not_id_neg_iff.mpr hid), if_pos hblank]
    rfl
  | color hid hname hcolor =>
    have hvisible := Text.isAllBlank_eq_false_iff.mpr hname
    have hother : Text.isHexColor t.color = false := Bool.eq_false_iff.mpr (mt Text.isHexColor_iff.mp hcolor)
    rw [Tag.validate, violation?, if_neg (not_id_neg_iff.mpr hid), hvisible, hother]
    rfl

theorem validate_eq_ok_iff : t.validate = .ok () ↔ t.Valid := by
  refine ⟨fun haccepted => ?_, Valid.validate⟩
  obtain hvalid | ⟨e, hrefusal⟩ := t.valid_or_refusal
  · exact hvalid
  · rw [hrefusal.validate] at haccepted
    cases haccepted

theorem validate_eq_error_iff : t.validate = .error e ↔ t.Refusal e := by
  refine ⟨fun hrefused => ?_, Refusal.validate⟩
  obtain hvalid | ⟨other, hrefusal⟩ := t.valid_or_refusal
  · rw [hvalid.validate] at hrefused
    cases hrefused
  · rw [hrefusal.validate] at hrefused
    exact Except.error.inj hrefused ▸ hrefusal

end Tag

/-- The tag that an action asks the server to save. -/
def Action.savedTag? : Action → Option Tag
  | addTag name color => some { name, color }
  | editTag t => some t
  | _ => none

theorem Action.verdict_of_savedTag {a : Action} {t : Tag} (hsaved : a.savedTag? = some t) :
    a.verdict = t.validate := by
  cases a with
  | addTag | editTag =>
    cases hsaved
    rfl
  | _ => cases hsaved

/-- The request to save a tag has its name and its color. -/
theorem Action.args_of_savedTag {a : Action} {t : Tag} (hsaved : a.savedTag? = some t) :
    ∃ members, a.args = [.object members] ∧ members.lookup "name" = some (.string t.name) ∧
      members.lookup "color" = some (.string t.color) := by
  cases a with
  | addTag | editTag =>
    cases hsaved
    refine ⟨_, rfl, ?_, ?_⟩
    all_goals
      rw [Json.lookup_insertMembers]
      rfl
  | _ => cases hsaved

namespace Tag

/-- A tag is accepted just if it keeps every rule, and is refused with the error of the first rule that it breaks
otherwise. Whatever the host does, a tag that is not accepted is not sent, be it a new one or not. -/
theorem rules_guard_requests :
    (∀ t : Tag, (t.validate = .ok () ↔ t.Valid) ∧ ∀ e, t.validate = .error e ↔ t.Refusal e) ∧
    ∀ (a : Action) (t : Tag), a.savedTag? = some t →
      ∀ {τ : Type} (host : Program.Host (StateM τ)) (x : τ), host.HasStore →
        ∀ action args answer, .emitted action args answer ∈ a.program.steps host x →
          t.Valid ∧ action = a.name ∧ ∃ members, args = [.object members] ∧
            members.lookup "name" = some (.string t.name) ∧ members.lookup "color" = some (.string t.color) := by
  refine ⟨fun t => ⟨validate_eq_ok_iff, fun e => validate_eq_error_iff⟩, ?_⟩
  intro a t hsaved τ host x hstore action args answer hsent
  obtain ⟨hverdict, rfl, rfl⟩ := Action.request_of_takes (Program.takes_run hstore a.program x) hsent
  rw [Action.verdict_of_savedTag hsaved, validate_eq_ok_iff] at hverdict
  exact ⟨hverdict, rfl, Action.args_of_savedTag hsaved⟩

/-- A new tag with a short color is sent. A color of one character that takes up three bytes is refused, though
nothing else is wrong with the tag. -/
theorem short_color_is_sent :
    let a := Action.addTag "on call" "#0aF"
    let t : Tag := { name := "on call", color := "#0aF" }
    let other : Tag := { name := "on call", color := "#€" }
    let host := (Emitter.acknowledging .null).host
    let request := [Json.ofMembers [("new", .bool true), ("name", .string "on call"), ("color", .string "#0aF")]]
    a.savedTag? = some t ∧ host.HasStore ∧
      .emitted "addTag" request (.ok .null) ∈ a.program.steps host ⟨.empty {}, (), []⟩ ∧ t.validate = .ok () ∧
      other.validate = .error (.invalidField "color" "'#€' is not a hex color") := by
  intro a t other host request
  have hstore : host.HasStore := Emitter.host_hasStore _
  have hsent : .emitted "addTag" request (.ok .null) ∈ a.program.steps host ⟨.empty {}, (), []⟩ := by
    exact .tail _ (.head _)
  obtain ⟨hvalid, -⟩ := rules_guard_requests.2 a t rfl host _ hstore _ _ _ hsent
  have hother : ¬Text.HexColor other.color := by
    rintro ⟨digits, hdigits, hlength, -⟩
    have hcharacters : other.color.toList = ['#', '€'] := by decide
    obtain ⟨-, rfl⟩ := List.cons.inj (hcharacters.symm.trans hdigits)
    exact absurd hlength (by decide)
  refine ⟨rfl, hstore, hsent, (rules_guard_requests.1 t).1.mpr hvalid, ?_⟩
  exact ((rules_guard_requests.1 other).2 _).mpr (.color (by decide) ⟨'o', by decide, rfl⟩ hother)

end Tag
end UptimeSync
