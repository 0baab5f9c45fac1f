import UptimeSync.Proofs.Json.Reading
import UptimeSync.Proofs.Wire.Coercion
import UptimeSync.Proofs.Wire.Scan

namespace UptimeSync.Wire

namespace Schema

variable {schema : Schema} {members known extra : Json.Members}

/-- Holds of a member that stands under the name of a slot and has a value of the slot's kind. -/
def Fits (schema : Schema) (entry : String × Json) : Prop :=
  ∃ slot, schema.slot? entry.1 = some slot ∧ slot.name = entry.1 ∧ slot.kind.check entry.2 = .ok ()

theorem fits_of_check {key : String} {v : Json} {kind : Kind} {aliases : List String}
    (hslot : schema.slot? key = some ⟨key, kind, aliases⟩) (hcheck : kind.check v = .ok ()) :
    schema.Fits (key, v) :=
  ⟨_, hslot, rfl, hcheck⟩

/-- A field with no value need not fit, and one with a value fits if it is of the slot's kind. -/
theorem fits_of_check_getD {key : String} {value : Option Json} {kind : Kind} {aliases : List String}
    (hslot : schema.slot? key = some ⟨key, kind, aliases⟩) (hcheck : kind.check (value.getD .null) = .ok ()) :
    ∀ v ∈ value, schema.Fits (key, v) := by
  rintro v rfl
  exact fits_of_check hslot hcheck

theorem knows_of_fits {entry : String × Json} (hfits : schema.Fits entry) : schema.knows entry.1 = true := by
  obtain ⟨slot, hslot, -⟩ := hfits
  rw [knows, hslot, Option.isSome_some]

/-- Where no slot has another spelling, the known keys are the names of the slots. -/
theorem knows_iff (hplain : ∀ slot ∈ schema.slots, slot.aliases = []) (key : String) :
    schema.knows key = true ↔ key ∈ schema.slots.map Slot.name := by
  rw [knows, slot?, List.find?_isSome, List.mem_map]
  refine exists_congr fun slot => and_congr_right fun hslot => ?_
  rw [Slot.answersTo, hplain slot hslot]
  simp

/-- Members that stand under the names of their slots are not renamed. -/
theorem named_of_fits (hfits : ∀ entry ∈ members, schema.Fits entry ∨ schema.knows entry.1 = false) :
    schema.named members = members.filter fun entry => schema.knows entry.1 := by
  rw [named, ← List.filterMap_eq_filter]
  refine List.filterMap_congr fun entry hentry => ?_
  cases hfits entry hentry with
  | inl hentry =>
    rw [Option.guard, if_pos (knows_of_fits hentry)]
    obtain ⟨slot, hslot, hname, -⟩ := hentry
    rw [hslot, Option.map_some, hname]
  | inr hunknown =>
    rw [Option.guard, hunknown, if_neg Bool.false_ne_true, Option.map_eq_none_iff]
    rwa [knows, Option.isSome_eq_false_iff, Option.isNone_iff_eq_none] at hunknown

/-- Members of which each fits where it is known, each key once, are read as they are; those that belong
to no slot are passed over. -/
theorem ofMembers_eq (hfits : ∀ entry ∈ members, schema.Fits entry ∨ schema.knows entry.1 = false)
    (hnodup : (Json.keys members).Nodup) :
    schema.ofMembers members = .ok ⟨members.filter fun entry => schema.knows entry.1⟩ := by
  rw [ofMembers_eq_ok_iff, named_of_fits hfits]
  refine ⟨rfl, fun entry hentry slot hslot => ?_, hnodup.sublist (List.filter_sublist.map Prod.fst)⟩
  cases hfits entry hentry with
  | inl hentry =>
    obtain ⟨_, hfound, -, hcheck⟩ := hentry
    rw [hfound] at hslot
    cases hslot
    exact hcheck
  | inr hunknown =>
    rw [knows, Option.mem_def.mp hslot] at hunknown
    cases hunknown

/-- Holds of members that a record of a schema can keep beside its slots. -/
structure Beside (schema : Schema) (extra : Json.Members) : Prop where
  unknown : ∀ key ∈ Json.keys extra, schema.knows key = false
  ascending : Json.Ascending extra

theorem Beside.nil : schema.Beside [] :=
  ⟨nofun, .nil⟩

/-- What belongs to no slot of a record that is read can be kept beside the slots. -/
theorem rest_beside (hv : (Json.object members).WellFormed) : schema.Beside (schema.rest members) := by
  refine ⟨fun key hkey => ?_, hv.members.1.filter _⟩
  obtain ⟨entry, hentry, rfl⟩ := List.mem_map.mp hkey
  simpa using (List.mem_filter.mp hentry).2

/-- Holds of members that a record of a schema is written with: those of its slots, and those that it
keeps beside them. -/
structure Writes (schema : Schema) (known extra : Json.Members) : Prop where
  fits : ∀ entry ∈ known, schema.Fits entry
  nodup_known : (Json.keys known).Nodup
  beside : schema.Beside extra

namespace Writes

theorem known_of_mem (hwrites : schema.Writes known extra) {key : String} (hkey : key ∈ Json.keys known) :
    schema.knows key = true := by
  obtain ⟨entry, hentry, rfl⟩ := List.mem_map.mp hkey
  exact knows_of_fits (hwrites.fits entry hentry)

/-- No two of the members have the same key. -/
theorem nodup_keys (hwrites : schema.Writes known extra) : (Json.keys (known ++ extra)).Nodup := by
  rw [Json.keys_append, List.nodup_append]
  refine ⟨hwrites.nodup_known, hwrites.beside.ascending.nodup_keys, ?_⟩
  rintro key hkey other hother rfl
  have hknown := hwrites.known_of_mem hkey
  rw [hwrites.beside.unknown key hother] at hknown
  cases hknown

/-- What is read off the members: each slot holds what was written under its name, and nothing if
nothing was. -/
theorem read (hwrites : schema.Writes known extra) :
    ∃ e, schema.ofMembers (Json.insertMembers [] (known ++ extra)) = .ok e ∧
      (∀ entry ∈ known, e.value entry.1 = entry.2) ∧
      ∀ key, schema.knows key = true → e.value key = (known.lookup key).getD .null := by
  have hperm := Json.written_perm hwrites.nodup_keys
  have hfits : ∀ entry ∈ Json.insertMembers [] (known ++ extra),
      schema.Fits entry ∨ schema.knows entry.1 = false := by
    intro entry hentry
    obtain hentry | hentry := List.mem_append.mp (hperm.subset hentry)
    · exact .inl (hwrites.fits entry hentry)
    · exact .inr (hwrites.beside.unknown entry.1 (Json.key_mem_keys hentry))
  have hvalue : ∀ key, schema.knows key = true →
      (((Json.insertMembers [] (known ++ extra)).filter fun entry => schema.knows entry.1).lookup key).getD
        .null = (known.lookup key).getD .null := by
    intro key hknown
    have habsent : key ∉ Json.keys extra := by
      intro hextra
      rw [hwrites.beside.unknown key hextra] at hknown
      cases hknown
    rw [Json.lookup_filter hknown, Json.lookup_of_perm hwrites.nodup_keys hperm.symm, List.lookup_append,
      Json.lookup_of_not_mem habsent, Option.or_none]
  refine ⟨⟨_⟩, ?_, ?_, hvalue⟩
  · exact ofMembers_eq hfits (Json.ascending_written _).nodup_keys
  · rintro ⟨key, v⟩ hentry
    have hlookup := Json.lookup_of_mem hwrites.nodup_known hentry
    exact (hvalue key (knows_of_fits (hwrites.fits _ hentry))).trans (congrArg (·.getD .null) hlookup)

/-- The members beside the slots are the same after they were written. -/
theorem rest_eq (hwrites : schema.Writes known extra) :
    schema.rest (Json.insertMembers [] (known ++ extra)) = extra := by
  have hrest : schema.rest (known ++ extra) = extra := by
    have hnone : schema.rest known = [] := by
      refine List.filter_eq_nil_iff.mpr fun entry hentry => ?_
      simp [knows_of_fits (hwrites.fits entry hentry)]
    have hall : schema.rest extra = extra := by
      refine List.filter_eq_self.mpr fun entry hentry => ?_
      simp [hwrites.beside.unknown entry.1 (Json.key_mem_keys hentry)]
    rw [rest, List.filter_append]
    exact (congrArg₂ (· ++ ·) hnone hall).trans (List.nil_append extra)
  have hperm : (schema.rest (Json.insertMembers [] (known ++ extra))).Perm (schema.rest (known ++ extra)) :=
    (Json.written_perm hwrites.nodup_keys).filter _
  rw [hrest] at hperm
  exact ((Json.ascending_written _).filter _).eq_of_perm hwrites.beside.ascending hperm

end Writes

/-- The members of a record's fields with those beside them, where each field's value, if it has one, is of
its slot's kind. -/
theorem Writes.ofFields {fields : List (String × Option Json)}
    (hfits : ∀ field ∈ fields, ∀ v ∈ field.2, schema.Fits (field.1, v)) (hnodup : (fields.map Prod.fst).Nodup)
    (hbeside : schema.Beside extra) : schema.Writes (Json.present fields) extra := by
  refine ⟨?_, hnodup.sublist (Json.keys_present fields), hbeside⟩
  intro entry hentry
  obtain ⟨field, hfield, hvalue⟩ := List.mem_filterMap.mp hentry
  obtain ⟨v, hv, rfl⟩ := Option.map_eq_some_iff.mp hvalue
  exact hfits field hfield v hv

/-- What is read in the slots of fields that were written where they have a value. -/
theorem value_present {e : Entries} {fields : List (String × Option Json)} (hnodup : (fields.map Prod.fst).Nodup)
    (hknown : ∀ key ∈ fields.map Prod.fst, schema.knows key = true)
    (hvalue : ∀ key, schema.knows key = true → e.value key = ((Json.present fields).lookup key).getD .null) :
    ∀ field ∈ fields, e.value field.1 = field.2.getD .null := by
  rintro ⟨key, value⟩ hfield
  rw [hvalue key (hknown key (List.mem_map_of_mem hfield)), Json.lookup_present hnodup hfield]

/-- A record without members beside its slots is read back if the slots, each with what was written under
its name, make up the record. -/
theorem read_written {α : Type} {ofEntries : Entries → α} {record : α} (hwrites : schema.Writes known [])
    (hrecord : ∀ e : Entries, (∀ entry ∈ known, e.value entry.1 = entry.2) →
      (∀ key, schema.knows key = true → e.value key = (known.lookup key).getD .null) →
        ofEntries e = record) :
    (schema.read (.ofMembers known)).map ofEntries = .ok record := by
  obtain ⟨e, hread, hentries, hvalue⟩ := hwrites.read
  rw [List.append_nil] at hread
  rw [Json.ofMembers, read, hread]
  exact congrArg Except.ok (hrecord e hentries hvalue)

/-- A record with members beside its slots is read back if the slots, each with what was written under its
name, and these members make up the record. -/
theorem read_written_beside {α : Type} {ofEntries : Entries → Json.Members → α} {record : α}
    (hwrites : schema.Writes known extra)
    (hrecord : ∀ e : Entries, (∀ entry ∈ known, e.value entry.1 = entry.2) →
      (∀ key, schema.knows key = true → e.value key = (known.lookup key).getD .null) →
        ofEntries e extra = record) :
    (do let members ← schema.members (.ofMembers (known ++ extra))
        let e ← schema.ofMembers members
        return ofEntries e (schema.rest members)) = Except.ok (ε := Fault) record := by
  obtain ⟨e, hread, hentries, hvalue⟩ := hwrites.read
  change (schema.ofMembers (Json.insertMembers [] (known ++ extra)) >>= fun e =>
    pure (ofEntries e (schema.rest (Json.insertMembers [] (known ++ extra))))) = _
  rw [hread, hwrites.rest_eq]
  exact congrArg Except.ok (hrecord e hentries hvalue)

/-- A record with members beside its slots is read from an object, and keeps the ones that belong to no
slot. -/
theorem read_beside {α : Type} {ofEntries : Entries → Json.Members → α} {v : Json} {record : α}
    (hread : (do let members ← schema.members v
                 let e ← schema.ofMembers members
                 return ofEntries e (schema.rest members)) = Except.ok (ε := Fault) record) :
    ∃ members e, v = .object members ∧ record = ofEntries e (schema.rest members) := by
  obtain ⟨members, hmembers, hread⟩ := Except.bind_eq_ok.mp hread
  obtain ⟨e, -, hrecord⟩ := Except.bind_eq_ok.mp hread
  refine ⟨members, e, ?_, (Except.ok.inj hrecord).symm⟩
  cases v with
  | object => rw [Except.ok.inj hmembers]
  | _ => cases hmembers

end Schema
end UptimeSync.Wire
