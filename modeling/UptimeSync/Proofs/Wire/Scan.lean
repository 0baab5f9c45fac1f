import UptimeSync.Proofs.Json.Members
import UptimeSync.Proofs.Results
import UptimeSync.Wire.Schema

namespace UptimeSync.Wire.Schema

variable {schema : Schema} {members checked : Json.Members} {seen : List String}

/-- The members that belong to slots, under the names of these. -/
def named (schema : Schema) (members : Json.Members) : Json.Members :=
  members.filterMap fun entry => (schema.slot? entry.1).map fun slot => (slot.name, entry.2)

/-- Holds of members of which those that belong to slots are of the kinds of these. -/
def Checked (schema : Schema) (members : Json.Members) : Prop :=
  ∀ entry ∈ members, ∀ slot ∈ schema.slot? entry.1, slot.kind.check entry.2 = .ok ()

theorem named_cons_of_none {key : String} (hslot : schema.slot? key = none) (v : Json) (members : Json.Members) :
    schema.named ((key, v) :: members) = schema.named members :=
  List.filterMap_cons_none (by rw [hslot, Option.map_none])

theorem named_cons_of_some {key : String} {slot : Slot} (hslot : schema.slot? key = some slot) (v : Json)
    (members : Json.Members) : schema.named ((key, v) :: members) = (slot.name, v) :: schema.named members :=
  List.filterMap_cons_some (by rw [hslot, Option.map_some])

theorem scan_cons_of_none {key : String} (hslot : schema.slot? key = none) (v : Json) (members : Json.Members) :
    schema.scan seen ((key, v) :: members) = schema.scan seen members := by
  rw [scan, hslot]

/-- One more member is read if its slot was not met before and is of its kind. -/
theorem scan_cons_eq_ok_iff {key : String} {slot : Slot} (hslot : schema.slot? key = some slot) {v : Json} :
    schema.scan seen ((key, v) :: members) = .ok checked ↔
      slot.name ∉ seen ∧ slot.kind.check v = .ok () ∧
        ∃ later, schema.scan (slot.name :: seen) members = .ok later ∧ checked = (slot.name, v) :: later := by
  rw [scan, hslot]
  dsimp only
  split
  next hmet =>
    constructor
    · rintro ⟨⟩
    · rintro ⟨hnew, -⟩
      exact absurd (List.contains_iff_mem.mp hmet) hnew
  next hnew =>
    rw [List.contains_iff_mem] at hnew
    simp only [Except.bind_eq_ok]
    constructor
    · rintro ⟨_, hcheck, later, hlater, ⟨⟩⟩
      exact ⟨hnew, hcheck, later, hlater, rfl⟩
    · rintro ⟨-, hcheck, later, hlater, rfl⟩
      exact ⟨(), hcheck, later, hlater, rfl⟩

/-- Members are read just if each is of the kind of its slot and no two belong to one slot. -/
theorem scan_eq_ok_iff :
    schema.scan seen members = .ok checked ↔
      checked = schema.named members ∧ schema.Checked members ∧
        (Json.keys (schema.named members)).Nodup ∧ ∀ name ∈ Json.keys (schema.named members), name ∉ seen := by
  -- The slots that were met before grow from member to member.
  induction members generalizing seen checked with
  | nil => simp [scan, named, Checked, Json.keys, eq_comm]
  | cons entry rest ih =>
    obtain ⟨key, v⟩ := entry
    rw [Checked, List.forall_mem_cons, ← Checked]
    cases hslot : schema.slot? key with
    | none => simpa [scan_cons_of_none hslot, named_cons_of_none hslot] using ih
    | some slot =>
      have hkeys : Json.keys ((slot.name, v) :: schema.named rest) = slot.name :: Json.keys (schema.named rest) := rfl
      rw [scan_cons_eq_ok_iff hslot, named_cons_of_some hslot, hkeys, List.nodup_cons, List.forall_mem_cons]
      simp only [ih]
      constructor
      · rintro ⟨hnew, hcheck, _, ⟨rfl, hchecked, hnodup, hlater⟩, rfl⟩
        refine ⟨rfl, ⟨?_, hchecked⟩, ⟨?_, hnodup⟩, hnew, ?_⟩
        · rintro _ ⟨⟩
          exact hcheck
        · exact fun hagain => hlater _ hagain List.mem_cons_self
        · exact fun name hname hseen => hlater name hname (List.mem_cons_of_mem _ hseen)
      · rintro ⟨rfl, ⟨hcheck, hchecked⟩, ⟨hfresh, hnodup⟩, hnew, hseen⟩
        refine ⟨hnew, hcheck slot rfl, schema.named rest, ⟨rfl, hchecked, hnodup, fun name hname hmem => ?_⟩, rfl⟩
        obtain rfl | hmem := List.mem_cons.mp hmem
        · exact hfresh hname
        · exact hseen name hname hmem

theorem ofMembers_eq_ok_iff {e : Entries} :
    schema.ofMembers members = .ok e ↔
      e = ⟨schema.named members⟩ ∧ schema.Checked members ∧ (Json.keys (schema.named members)).Nodup := by
  simp only [ofMembers, Except.map_eq_ok, scan_eq_ok_iff]
  constructor
  · rintro ⟨_, ⟨rfl, hchecked, hnodup, -⟩, rfl⟩
    exact ⟨rfl, hchecked, hnodup⟩
  · rintro ⟨rfl, hchecked, hnodup⟩
    exact ⟨_, ⟨rfl, hchecked, hnodup, fun _ _ => List.not_mem_nil⟩, rfl⟩

end UptimeSync.Wire.Schema
