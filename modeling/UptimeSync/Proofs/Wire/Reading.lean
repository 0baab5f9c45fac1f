import UptimeSync.Proofs.Wire.Written

namespace UptimeSync

namespace Wire

/-- Holds of a record each field of which has one spelling of its own. -/
structure Schema.Plain (schema : Schema) : Prop where
  no_aliases : ∀ slot ∈ schema.slots, slot.aliases = []
  nodup_names : (schema.slots.map Slot.name).Nodup

namespace Schema

variable {schema : Schema} {members : Json.Members}

/-- Holds of members of which those that stand under the names of slots are of the kinds of the slots. -/
def Suits (schema : Schema) (members : Json.Members) : Prop :=
  ∀ slot ∈ schema.slots, ∀ v ∈ members.lookup slot.name, slot.kind.check v = .ok ()

theorem name_eq_of_slot? (hplain : schema.Plain) {key : String} {slot : Slot}
    (hfound : schema.slot? key = some slot) : slot.name = key := by
  have hanswers : slot.answersTo key = true := by simpa using List.find?_some hfound
  simpa [Slot.answersTo, hplain.no_aliases slot (List.mem_of_find?_eq_some hfound)] using hanswers

theorem slot?_name (hplain : schema.Plain) {slot : Slot} (hslot : slot ∈ schema.slots) :
    schema.slot? slot.name = some slot := by
  have hknown : (schema.slot? slot.name).isSome := by
    rw [slot?, List.find?_isSome]
    exact ⟨slot, hslot, by simp [Slot.answersTo]⟩
  obtain ⟨first, hfirst⟩ := Option.isSome_iff_exists.mp hknown
  have hname : first.name = slot.name := name_eq_of_slot? hplain hfirst
  rw [hfirst, List.inj_on_of_nodup_map hplain.nodup_names (List.mem_of_find?_eq_some hfirst) hslot hname]

theorem suits_of_ofMembers (hplain : schema.Plain) {e : Entries} (hread : schema.ofMembers members = .ok e) :
    schema.Suits members := by
  intro slot hslot v hv
  exact (ofMembers_eq_ok_iff.mp hread).2.1 (slot.name, v) (Json.mem_of_lookup hv) slot (slot?_name hplain hslot)

/-- Members of the right kinds are read, and each slot holds what stands under its name. -/
theorem ofMembers_of_suits (hplain : schema.Plain) (hnodup : (Json.keys members).Nodup)
    (hsuits : schema.Suits members) :
    ∃ e, schema.ofMembers members = .ok e ∧
      ∀ slot ∈ schema.slots, e.value slot.name = (members.lookup slot.name).getD .null := by
  have hfits : ∀ entry ∈ members, schema.Fits entry ∨ schema.knows entry.1 = false := by
    intro entry hentry
    cases hfound : schema.slot? entry.1 with
    | none => exact .inr (by simp [knows, hfound])
    | some slot =>
      have hname : slot.name = entry.1 := name_eq_of_slot? hplain hfound
      have hlookup : members.lookup slot.name = some entry.2 := by
        rw [hname]
        exact Json.lookup_of_mem hnodup hentry
      exact .inl ⟨slot, hfound, hname, hsuits slot (List.mem_of_find?_eq_some hfound) entry.2 hlookup⟩
  refine ⟨_, ofMembers_eq hfits hnodup, fun slot hslot => ?_⟩
  have hknown : schema.knows slot.name = true := by
    rw [knows, slot?_name hplain hslot, Option.isSome_some]
  rw [Entries.value, Json.lookup_filter hknown]

theorem zipItems_eq_ok_iff {slots : List Slot} {items : List Json} :
    (∃ checked, zipItems slots items = .ok checked) ↔
      ∀ pair ∈ slots.zip items, pair.1.kind.check pair.2 = .ok () := by
  induction slots generalizing items with
  | nil => simp [zipItems]
  | cons slot slots ih =>
    cases items with
    | nil => simp [zipItems]
    | cons item items =>
      rw [List.zip_cons_cons, List.forall_mem_cons, ← ih, zipItems]
      constructor
      · rintro ⟨_, hread⟩
        obtain ⟨_, hcheck, hrest⟩ := Except.bind_eq_ok.mp hread
        obtain ⟨checked, hchecked, -⟩ := Except.bind_eq_ok.mp hrest
        exact ⟨hcheck, checked, hchecked⟩
      · rintro ⟨hcheck, checked, hchecked⟩
        rw [hcheck, hchecked]
        exact ⟨_, rfl⟩

/-- An array is read as a record just if it is not too long and its items are of the kinds of the slots. -/
theorem ofItems_eq_ok_iff {allowed : String} {items : List Json} :
    (∃ e, schema.ofItems allowed items = .ok e) ↔
      items.length ≤ schema.slots.length ∧
        ∀ pair ∈ schema.slots.zip items, pair.1.kind.check pair.2 = .ok () := by
  rw [← zipItems_eq_ok_iff]
  constructor
  · rintro ⟨e, hread⟩
    obtain ⟨checked, hchecked, hrest⟩ := Except.bind_eq_ok.mp hread
    by_cases hlong : schema.slots.length < items.length
    · rw [if_pos hlong] at hrest
      cases hrest
    · exact ⟨not_lt.mp hlong, checked, hchecked⟩
  · rintro ⟨hlength, checked, hchecked⟩
    have hshort : ¬schema.slots.length < items.length := not_lt.mpr hlength
    refine ⟨⟨checked⟩, ?_⟩
    rw [ofItems, hchecked]
    simp only [if_neg hshort]
    rfl

/-- Holds of an array that lists the fields of a record from the first one on, as many as there are in it. -/
def Positional (schema : Schema) (v : Json) : Prop :=
  ∃ items, v = .array items ∧ items.length ≤ schema.slots.length ∧
    ∀ pair ∈ schema.slots.zip items, pair.1.kind.check pair.2 = .ok ()

/-- What is read as a record and is no object is an array of its fields. -/
theorem read_eq_ok_iff {v : Json} :
    (∃ e, schema.read v = .ok e) ↔
      (∃ members, v = .object members ∧ ∃ e, schema.ofMembers members = .ok e) ∨ schema.Positional v := by
  cases v with
  | array items => simp [read, Positional, ofItems_eq_ok_iff]
  | _ => simp [read, Positional]

end Schema

theorem Kind.check_flag {v : Json} : Kind.flag.check v = .ok () ↔ ∃ b, v.looseFlag = .ok b := by
  rw [check, Json.looseFlag, Except.exists_map_eq_ok, Except.map_eq_ok]
  simp

theorem Kind.check_text {v : Json} : Kind.text.check v = .ok () ↔ ∃ s, v.looseText = .ok s := by
  rw [check, Json.looseText, Except.exists_map_eq_ok, Except.map_eq_ok]
  simp

/-- A member that may be null may as well be left out. -/
theorem Kind.check_getD {kind : Kind} (hnull : kind.check .null = .ok ()) (v? : Option Json) :
    kind.check (v?.getD .null) = .ok () ↔ ∀ v ∈ v?, kind.check v = .ok () := by
  cases v? with
  | none => simp [hnull]
  | some v => simp [eq_comm]

namespace Entries

variable {e : Entries} {name : String}

theorem flag_of_looseFlag {b : Bool} (hvalue : (e.value name).looseFlag = .ok b) : e.flag name = b := by
  obtain ⟨b?, hflag, rfl⟩ := Except.map_eq_ok.mp hvalue
  rw [flag, optFlag, hflag]
  rfl

theorem text_of_looseText {s : String} (hvalue : (e.value name).looseText = .ok s) : e.text name = s := by
  obtain ⟨s?, htext, rfl⟩ := Except.map_eq_ok.mp hvalue
  rw [text, optText, htext]
  rfl

end Entries
end Wire
end UptimeSync
