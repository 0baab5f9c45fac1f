import UptimeSync.Action.Reply
import UptimeSync.Proofs.Wire.Reading

namespace UptimeSync.Reply

/-- Holds of an acknowledgement and its payload. A payload that is text can only stand in another text. -/
inductive Carries : Json → Json → Prop where
  | direct {v : Json} (hv : ∀ text, v ≠ .string text) : Carries (.array [v]) v
  | encoded {text : String} {v : Json} (hread : Json.read? text = some v) :
    Carries (.array [.string text]) v

variable {action : String} {raw v : Json}

theorem payload_direct (action : String) (hv : ∀ text, v ≠ .string text) :
    payload action (.array [v]) = .ok v := by
  cases v with
  | string text => exact absurd rfl (hv text)
  | _ => rfl

theorem payload_encoded (action : String) {text : String} (hread : Json.read? text = some v) :
    payload action (.array [.string text]) = .ok v := by
  rw [payload, hread]

theorem payload_malformed (action : String) {text : String} (hread : Json.read? text = none) :
    payload action (.array [.string text]) = .error (.unreadableResponse action .malformed) := by
  rw [payload, hread]

theorem payload_misshapen (action : String) (hraw : ∀ v, raw ≠ .array [v]) :
    payload action raw = .error (.invalidResponse action) := by
  unfold payload
  split
  · exact absurd rfl (hraw _)
  · exact absurd rfl (hraw _)
  · rfl

theorem Carries.payload_eq (hcarries : Carries raw v) (action : String) : payload action raw = .ok v := by
  cases hcarries with
  | direct hv => exact payload_direct action hv
  | encoded hread => exact payload_encoded action hread

/-- The payload of a well-formed acknowledgement is well-formed, also where it is read from text. -/
theorem Carries.wellFormed (hcarries : Carries raw v) (hraw : raw.WellFormed) : v.WellFormed := by
  cases hcarries with
  | direct =>
    cases hraw with
    | array hitems => exact hitems v List.mem_cons_self
  | encoded hread => exact Json.wellFormed_read hread

variable {fields : List Wire.Slot} {members : Json.Members}

/-- The record that the fields of its own make up in an acknowledgement. -/
def own (fields : List Wire.Slot) : Wire.Schema :=
  { envelope with slots := fields }

theorem envelope_plain : envelope.Plain :=
  ⟨by decide, by decide⟩

/-- The common fields of an acknowledgement do not hide its own ones. -/
theorem lookup_rest (happart : ∀ slot ∈ fields, envelope.knows slot.name = false) (members : Json.Members) :
    ∀ slot ∈ fields, (envelope.rest members).lookup slot.name = members.lookup slot.name := by
  intro slot hslot
  exact Json.lookup_filter (p := fun key => !envelope.knows key) (by simp [happart slot hslot]) members

theorem suits_rest_iff (happart : ∀ slot ∈ fields, envelope.knows slot.name = false) :
    (own fields).Suits (envelope.rest members) ↔ (own fields).Suits members := by
  refine forall₂_congr fun slot hslot => ?_
  rw [lookup_rest happart members slot hslot]

/-- An acknowledgement that is read is an object, and all its fields are of their kinds. -/
theorem suits_of_ofJson {reply : Reply} (hplain : (own fields).Plain)
    (happart : ∀ slot ∈ fields, envelope.knows slot.name = false) (hread : ofJson fields v = .ok reply) :
    ∃ members, v = .object members ∧ envelope.Suits members ∧ (own fields).Suits members := by
  obtain ⟨members, hmembers, hread⟩ := Except.bind_eq_ok.mp hread
  obtain ⟨common, hcommon, hread⟩ := Except.bind_eq_ok.mp hread
  obtain ⟨body, hbody, -⟩ := Except.bind_eq_ok.mp hread
  refine ⟨members, ?_, Wire.Schema.suits_of_ofMembers envelope_plain hcommon, ?_⟩
  · cases v with
    | object => rw [Except.ok.inj hmembers]
    | _ => cases hmembers
  · exact (suits_rest_iff happart).mp (Wire.Schema.suits_of_ofMembers hplain hbody)

/-- An object all of whose fields are of their kinds is read, and each field holds what stands under its
name. -/
theorem ofJson_of_suits (hplain : (own fields).Plain)
    (happart : ∀ slot ∈ fields, envelope.knows slot.name = false) (hnodup : (Json.keys members).Nodup)
    (hcommon : envelope.Suits members) (hown : (own fields).Suits members) :
    ∃ common body : Wire.Entries, ofJson fields (.object members) =
        .ok ⟨common.flag "ok", common.optText "msg", body⟩ ∧
      (∀ slot ∈ envelope.slots, common.value slot.name = (members.lookup slot.name).getD .null) ∧
      ∀ slot ∈ fields, body.value slot.name = (members.lookup slot.name).getD .null := by
  obtain ⟨common, hread, hvalues⟩ := Wire.Schema.ofMembers_of_suits envelope_plain hnodup hcommon
  have hrest : (Json.keys (envelope.rest members)).Nodup :=
    hnodup.sublist (List.filter_sublist.map Prod.fst)
  obtain ⟨body, hbody, hbodyValues⟩ :=
    Wire.Schema.ofMembers_of_suits hplain hrest ((suits_rest_iff happart).mpr hown)
  refine ⟨common, body, ?_, hvalues, fun slot hslot => ?_⟩
  · have hmembers : envelope.members (.object members) = .ok members := rfl
    rw [ofJson, hmembers]
    change (do
      let common ← envelope.ofMembers members
      let body ← (own fields).ofMembers (envelope.rest members)
      return (⟨common.flag "ok", common.optText "msg", body⟩ : Reply)) = _
    rw [hread, hbody]
    rfl
  · rw [hbodyValues slot hslot, lookup_rest happart members slot hslot]

end UptimeSync.Reply
