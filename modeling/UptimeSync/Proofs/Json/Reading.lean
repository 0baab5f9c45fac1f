import UptimeSync.Json.Reader
import UptimeSync.Proofs.Json.Members

namespace UptimeSync.Json

/-- Holds of a value in which every object lists its members by ascending key, each key once. -/
inductive WellFormed : Json → Prop where
  | null : WellFormed .null
  | bool (b : Bool) : WellFormed (.bool b)
  | integer (n : Integer) : WellFormed (.integer n)
  | real (x : Binary64.Finite) : WellFormed (.real x)
  | string (s : String) : WellFormed (.string s)
  | array {items : List Json} (hitems : ∀ item ∈ items, WellFormed item) : WellFormed (.array items)
  | object {members : Members} (hascending : Ascending members)
      (hvalues : ∀ entry ∈ members, WellFormed entry.2) : WellFormed (.object members)

theorem WellFormed.members {members : Members} (hv : (Json.object members).WellFormed) :
    Ascending members ∧ ∀ entry ∈ members, entry.2.WellFormed := by
  cases hv with
  | object hascending hvalues => exact ⟨hascending, hvalues⟩

theorem wellFormed_ofMembers {members : Members} (hvalues : ∀ entry ∈ members, WellFormed entry.2) :
    (ofMembers members).WellFormed := by
  refine .object (ascending_written members) fun entry hentry => ?_
  obtain hnone | hentry := mem_insertMembers hentry
  · cases hnone
  · exact hvalues entry hentry

theorem wellFormed_ofBinary64 {x : Binary64} {v : Json} (hv : ofBinary64? x = some v) : v.WellFormed := by
  cases x with
  | finite x =>
    cases hv
    exact .real x
  | infinite | nan => cases hv

theorem wellFormed_ofWhole {negative : Bool} {n : Nat} {v : Json} (hv : ofWhole? negative n = some v) :
    v.WellFormed := by
  unfold ofWhole? at hv
  dsimp only at hv
  by_cases hzero : negative = true ∧ n = 0
  · rw [if_pos hzero] at hv
    exact wellFormed_ofBinary64 hv
  · rw [if_neg hzero] at hv
    by_cases hfits : Int64.minValue.toInt ≤ (if negative then -(n : Int) else n) ∧
        (if negative then -(n : Int) else n) < UInt64.size
    · rw [dif_pos hfits] at hv
      cases hv
      exact .integer _
    · rw [dif_neg hfits] at hv
      exact wellFormed_ofBinary64 hv

theorem wellFormed_ofParts {negative : Bool} {significand : Nat} {scale : Int} {exponent : Option Exponent}
    {v : Json} (hv : ofParts? negative significand scale exponent = some v) : v.WellFormed := by
  cases exponent with
  | none => exact wellFormed_ofBinary64 hv
  | some exponent =>
    unfold ofParts? at hv
    dsimp only at hv
    split at hv
    · exact wellFormed_ofBinary64 hv
    · split at hv
      · exact wellFormed_ofBinary64 hv
      · cases hv

theorem wellFormed_assemble {negative : Bool} {whole : List Char} {fraction : Option (List Char)}
    {exponent : Option Exponent} {v : Json} (hv : assemble? negative whole fraction exponent = some v) :
    v.WellFormed := by
  unfold assemble? at hv
  dsimp only at hv
  split at hv
  · exact wellFormed_ofWhole hv
  · exact wellFormed_ofParts hv

theorem wellFormed_readUnsigned {negative : Bool} {cs rest : List Char} {v : Json}
    (hv : readUnsigned? negative cs = some (v, rest)) : v.WellFormed := by
  unfold readUnsigned? at hv
  dsimp only at hv
  split at hv
  · cases hv
  · obtain ⟨⟨_, _, _⟩, -, hv⟩ := Option.bind_eq_some_iff.mp hv
    obtain ⟨number, hnumber, heq⟩ := Option.bind_eq_some_iff.mp hv
    cases heq
    exact wellFormed_assemble hnumber

theorem wellFormed_readNumber {cs rest : List Char} {v : Json} (hv : readNumber? cs = some (v, rest)) :
    v.WellFormed := by
  unfold readNumber? at hv
  split at hv <;> exact wellFormed_readUnsigned hv

/-- Holds of a number of steps in which only well-formed values can be read, from any text. -/
structure Sound (fuel : Nat) : Prop where
  value {depth : Nat} {cs rest : List Char} {v : Json} (hread : readValue? fuel depth cs = some (v, rest)) :
    v.WellFormed
  items {depth : Nat} {cs rest : List Char} {items : List Json}
    (hread : readItems? fuel depth cs = some (items, rest)) : ∀ item ∈ items, item.WellFormed
  members {depth : Nat} {cs rest : List Char} {members : Members}
    (hread : readMembers? fuel depth cs = some (members, rest)) : ∀ entry ∈ members, entry.2.WellFormed

variable {fuel depth : Nat} {cs rest : List Char}

theorem Sound.readValue (hsound : Sound fuel) {v : Json} (hread : readValue? (fuel + 1) depth cs = some (v, rest)) :
    v.WellFormed := by
  unfold readValue? at hread
  split at hread
  · cases hread
    exact .null
  · cases hread
    exact .bool true
  · cases hread
    exact .bool false
  · obtain ⟨⟨text, _⟩, -, heq⟩ := Option.map_eq_some_iff.mp hread
    cases heq
    exact .string text
  · cases depth with
    | zero => cases hread
    | succ depth =>
      dsimp only at hread
      split at hread
      · cases hread
        exact .array nofun
      · obtain ⟨⟨items, _⟩, hitems, heq⟩ := Option.map_eq_some_iff.mp hread
        cases heq
        exact .array (hsound.items hitems)
  · cases depth with
    | zero => cases hread
    | succ depth =>
      dsimp only at hread
      split at hread
      · cases hread
        exact .object .nil nofun
      · obtain ⟨⟨members, _⟩, hmembers, heq⟩ := Option.bind_eq_some_iff.mp hread
        cases heq
        exact wellFormed_ofMembers (hsound.members hmembers)
  · exact wellFormed_readNumber hread

theorem Sound.readItems (hsound : Sound fuel) {items : List Json}
    (hread : readItems? (fuel + 1) depth cs = some (items, rest)) : ∀ item ∈ items, item.WellFormed := by
  unfold readItems? at hread
  obtain ⟨⟨item, _⟩, hitem, hread⟩ := Option.bind_eq_some_iff.mp hread
  have hfirst : item.WellFormed := hsound.value hitem
  dsimp only at hread
  split at hread
  · cases hread
    exact List.forall_mem_singleton.mpr hfirst
  · obtain ⟨⟨others, _⟩, hothers, heq⟩ := Option.bind_eq_some_iff.mp hread
    cases heq
    exact List.forall_mem_cons.mpr ⟨hfirst, hsound.items hothers⟩
  · cases hread

theorem Sound.readMembers (hsound : Sound fuel) {members : Members}
    (hread : readMembers? (fuel + 1) depth cs = some (members, rest)) :
    ∀ entry ∈ members, entry.2.WellFormed := by
  unfold readMembers? at hread
  split at hread
  · obtain ⟨⟨key, _⟩, -, hread⟩ := Option.bind_eq_some_iff.mp hread
    dsimp only at hread
    split at hread
    · obtain ⟨⟨v, _⟩, hv, hread⟩ := Option.bind_eq_some_iff.mp hread
      have hfirst : v.WellFormed := hsound.value hv
      dsimp only at hread
      split at hread
      · cases hread
        exact List.forall_mem_singleton.mpr hfirst
      · obtain ⟨⟨others, _⟩, hothers, heq⟩ := Option.bind_eq_some_iff.mp hread
        cases heq
        exact List.forall_mem_cons.mpr ⟨hfirst, hsound.members hothers⟩
      · cases hread
    · cases hread
  · cases hread

theorem sound (fuel : Nat) : Sound fuel := by
  induction fuel with
  | zero => exact ⟨nofun, nofun, nofun⟩
  | succ fuel ih => exact ⟨ih.readValue, ih.readItems, ih.readMembers⟩

/-- Every value that a text holds is well-formed. -/
theorem wellFormed_read {text : String} {v : Json} (hread : read? text = some v) : v.WellFormed := by
  unfold read? at hread
  dsimp only at hread
  split at hread
  · next hvalue =>
    split at hread
    · cases hread
      exact (sound _).value hvalue
    · cases hread
  · cases hread

end UptimeSync.Json
