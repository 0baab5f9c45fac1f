import Mathlib.Data.List.Induction
import UptimeSync.Proofs.Results
import UptimeSync.Wire.IdMap

namespace UptimeSync.Wire

variable {α : Type}

/-- An entry of a table that cannot be read: its key is not the text of an identifier, or its value is
not a record. -/
def BadEntry (read : Json → Except Fault α) (entry : String × Json) : Prop :=
  (∃ e, idOfKey entry.1 = .error e) ∨ ∃ fault, read entry.2 = .error fault

theorem readValue_eq_ok {read : Json → Except Fault α} {v : Json} {a : α} :
    readValue read v = .ok a ↔ read v = .ok a :=
  Except.mapError_eq_ok

def readEntry (read : Json → Except Fault α) (table : IdMap α) (entry : String × Json) :
    Except ReadError (IdMap α) := do
  let id ← idOfKey entry.1
  let record ← readValue read entry.2
  return table.insert id record

theorem readTable_eq_foldlM (read : Json → Except Fault α) (members : Json.Members) :
    readTable read members = members.foldlM (readEntry read) ∅ := rfl

variable {read : Json → Except Fault α} {members : Json.Members} {entry : String × Json} {table longer : IdMap α}

theorem not_badEntry_iff : ¬BadEntry read entry ↔ (∃ id, idOfKey entry.1 = .ok id) ∧ ∃ a, read entry.2 = .ok a := by
  rw [BadEntry, not_or, ← Except.not_exists_ok_iff, ← Except.not_exists_ok_iff, not_not, not_not]

theorem readEntry_eq_ok_iff :
    readEntry read table entry = .ok longer ↔
      ∃ id a, idOfKey entry.1 = .ok id ∧ read entry.2 = .ok a ∧ longer = table.insert id a := by
  simp only [readEntry, Except.bind_eq_ok, readValue_eq_ok]
  constructor
  · rintro ⟨id, hkey, a, hvalue, ⟨⟩⟩
    exact ⟨id, a, hkey, hvalue, rfl⟩
  · rintro ⟨id, a, hkey, hvalue, rfl⟩
    exact ⟨id, hkey, a, hvalue, rfl⟩

theorem exists_readEntry_iff : (∃ longer, readEntry read table entry = .ok longer) ↔ ¬BadEntry read entry := by
  simp only [readEntry_eq_ok_iff, not_badEntry_iff]
  constructor
  · rintro ⟨_, id, a, hkey, hvalue, -⟩
    exact ⟨⟨id, hkey⟩, a, hvalue⟩
  · rintro ⟨⟨id, hkey⟩, a, hvalue⟩
    exact ⟨_, id, a, hkey, hvalue, rfl⟩

theorem readTable_concat (read : Json → Except Fault α) (before : Json.Members) (entry : String × Json) :
    readTable read (before ++ [entry]) = readTable read before >>= (readEntry read · entry) := by
  rw [readTable_eq_foldlM, readTable_eq_foldlM, List.foldlM_append]
  refine congrArg _ (funext fun table => ?_)
  rw [List.foldlM_cons]
  exact bind_pure _

/-- A table is read just if each of its entries can be, whatever the others are. -/
theorem exists_readTable_iff :
    (∃ table, readTable read members = .ok table) ↔ ∀ entry ∈ members, ¬BadEntry read entry := by
  induction members using List.reverseRecOn with
  | nil => exact ⟨fun _ => nofun, fun _ => ⟨∅, rfl⟩⟩
  | append_singleton before entry ih =>
    rw [readTable_concat, List.forall_mem_append, ← ih, List.forall_mem_singleton]
    simp only [Except.bind_eq_ok]
    constructor
    · rintro ⟨longer, table, hbefore, hentry⟩
      exact ⟨⟨table, hbefore⟩, exists_readEntry_iff.mp ⟨longer, hentry⟩⟩
    · rintro ⟨⟨table, hbefore⟩, hgood⟩
      obtain ⟨longer, hentry⟩ : ∃ longer, readEntry read table entry = .ok longer := exists_readEntry_iff.mpr hgood
      exact ⟨longer, table, hbefore, hentry⟩

theorem not_bad_of_readTable (hread : readTable read members = .ok table) :
    ∀ entry ∈ members, ¬BadEntry read entry :=
  exists_readTable_iff.mp ⟨table, hread⟩

theorem exists_of_readList {items : List Json} {records : List α}
    (hread : readList read items = .ok records) : ∀ v ∈ items, ∃ a, read v = .ok a := by
  intro v hv
  obtain ⟨a, ha⟩ := Except.exists_mapM_eq_ok.mp ⟨records, hread⟩ v hv
  exact ⟨a, readValue_eq_ok.mp ha⟩

end UptimeSync.Wire
