import UptimeSync.Proofs.Decimal.Integer
import UptimeSync.Proofs.Json.Members
import UptimeSync.Proofs.Store.Table
import UptimeSync.Proofs.Text.Bytes
import UptimeSync.Proofs.Wire.Refusal
import UptimeSync.Record.Tag

namespace UptimeSync.Wire

open Decimal (Spells)

theorem idOfKey_eq_ok_iff {key : String} {id : Int64} : idOfKey key = .ok id ↔ Spells id.toInt key := by
  rw [Decimal.spells_iff, ← Decimal.readInt64?_eq_some_iff, idOfKey]
  cases Decimal.readInt64? (Text.trimmed key.toList) <;> simp

theorem idOfKey_eq_error_iff {key : String} {e : ReadError} :
    idOfKey key = .error e ↔ e = .badKey key ∧ ∀ id : Int64, ¬Spells id.toInt key := by
  simp only [← idOfKey_eq_ok_iff]
  rw [idOfKey]
  cases Decimal.readInt64? (Text.trimmed key.toList) <;> simp [eq_comm]

/-- A key spells at most one identifier. -/
theorem eq_of_spells {key : String} {id other : Int64} (hid : Spells id.toInt key) (hother : Spells other.toInt key) :
    id = other :=
  Except.ok.inj ((idOfKey_eq_ok_iff.mpr hid).symm.trans (idOfKey_eq_ok_iff.mpr hother))

/-- Holds of the key with the greatest bytes among the keys of members that spell an identifier. -/
def LastFor (members : Json.Members) (id : Int64) (key : String) : Prop :=
  Spells id.toInt key ∧ ∀ other ∈ Json.keys members, Spells id.toInt other → Text.bytes other ≤ Text.bytes key

variable {α : Type} {read : Json → Except Fault α} {members before : Json.Members} {entry : String × Json}
  {table longer : IdMap α} {id : Int64} {a : α} {e : ReadError}

/-- Holds of the table that members make up: its identifiers are those that their keys spell, and under each of them
is the record whose key has the greatest bytes of all that spell it. -/
structure Tabulates (read : Json → Except Fault α) (members : Json.Members) (table : IdMap α) : Prop where
  mem_iff (id : Int64) : id ∈ table ↔ ∃ key ∈ Json.keys members, Spells id.toInt key
  getElem?_eq_some_iff (id : Int64) (a : α) :
    table[id]? = some a ↔ ∃ entry ∈ members, LastFor members id entry.1 ∧ read entry.2 = .ok a

/-- An entry of a table that can be read: its key spells an identifier, and its value is a record. -/
def GoodEntry (read : Json → Except Fault α) (entry : String × Json) : Prop :=
  (∃ id : Int64, Spells id.toInt entry.1) ∧ ∃ a, read entry.2 = .ok a

/-- What is wrong with an entry of a table. Its value does not matter where its key spells no identifier. -/
inductive EntryFault (read : Json → Except Fault α) (entry : String × Json) : ReadError → Prop where
  | key (hkey : ∀ id : Int64, ¬Spells id.toInt entry.1) : EntryFault read entry (.badKey entry.1)
  | value {id : Int64} (hkey : Spells id.toInt entry.1) {fault : Fault} (hvalue : read entry.2 = .error fault) :
    EntryFault read entry (.value fault)

theorem goodEntry_iff : GoodEntry read entry ↔ ¬BadEntry read entry := by
  simp only [GoodEntry, not_badEntry_iff, idOfKey_eq_ok_iff]

theorem readEntry_eq_error_iff : readEntry read table entry = .error e ↔ EntryFault read entry e := by
  simp only [readEntry, Except.bind_eq_error, idOfKey_eq_error_iff, idOfKey_eq_ok_iff, readValue,
    Except.mapError_eq_error]
  constructor
  · rintro (⟨rfl, hkey⟩ | ⟨id, hkey, ⟨fault, hvalue, rfl⟩ | ⟨_, _, ⟨⟩⟩⟩)
    · exact .key hkey
    · exact .value hkey hvalue
  · rintro (hkey | ⟨hkey, hvalue⟩)
    · exact .inl ⟨rfl, hkey⟩
    · exact .inr ⟨_, hkey, .inl ⟨_, hvalue, rfl⟩⟩

theorem exists_readTable_iff_good :
    (∃ table, readTable read members = .ok table) ↔ ∀ entry ∈ members, GoodEntry read entry := by
  simp only [goodEntry_iff, exists_readTable_iff]

/-- Holds of what is wrong with the first of the bad entries of members, in the order of the bytes of their keys. -/
def FirstFault (read : Json → Except Fault α) (members : Json.Members) (e : ReadError) : Prop :=
  ∃ entry ∈ members, EntryFault read entry e ∧
    ∀ other ∈ members, Text.bytes other.1 < Text.bytes entry.1 → GoodEntry read other

theorem lastFor_concat_iff (hother : ¬Spells id.toInt entry.1) {key : String} :
    LastFor (before ++ [entry]) id key ↔ LastFor before id key := by
  rw [LastFor, LastFor, Json.keys_append, List.forall_mem_append]
  refine and_congr_right fun _ => and_iff_left ?_
  exact List.forall_mem_singleton.mpr fun hspells => absurd hspells hother

/-- A key that comes after all others is the last for the identifier that it spells. -/
theorem exists_lastFor_concat_iff (habove : ∀ key ∈ Json.keys before, key < entry.1) (hkey : Spells id.toInt entry.1) :
    (∃ last ∈ before ++ [entry], LastFor (before ++ [entry]) id last.1 ∧ read last.2 = .ok a) ↔
      read entry.2 = .ok a := by
  have hentry : entry ∈ before ++ [entry] := List.mem_append_right _ List.mem_cons_self
  constructor
  · rintro ⟨last, hmem, ⟨-, hlast⟩, hread⟩
    have hle : entry.1 ≤ last.1 := Text.bytes_le_iff.mp (hlast entry.1 (Json.key_mem_keys hentry) hkey)
    obtain hmem | hmem := List.mem_append.mp hmem
    · exact absurd (habove last.1 (Json.key_mem_keys hmem)) hle.not_gt
    · rwa [List.mem_singleton.mp hmem] at hread
  · intro hread
    refine ⟨entry, hentry, ⟨hkey, ?_⟩, hread⟩
    rw [Json.keys_append, List.forall_mem_append]
    exact ⟨fun key hmem _ => Text.bytes_le_iff.mpr (habove key hmem).le,
      List.forall_mem_singleton.mpr fun _ => List.le_refl _⟩

/-- The table of one more member, under a key that comes after all others. -/
theorem Tabulates.concat (hbefore : Tabulates read before table) (habove : ∀ key ∈ Json.keys before, key < entry.1)
    (hkey : Spells id.toInt entry.1) (hvalue : read entry.2 = .ok a) :
    Tabulates read (before ++ [entry]) (table.insert id a) := by
  refine ⟨fun other => ?_, fun other b => ?_⟩
  · have hlast : id = other ↔ Spells other.toInt entry.1 := ⟨fun hid => hid ▸ hkey, eq_of_spells hkey⟩
    have hkeys (key : String) : key ∈ Json.keys (before ++ [entry]) ↔ key ∈ Json.keys before ∨ key = entry.1 := by
      rw [Json.keys_append, List.mem_append]
      exact or_congr_right List.mem_singleton
    simp only [IdMap.mem_insert, hbefore.mem_iff, hlast, hkeys, or_and_right, exists_or, exists_eq_left, or_comm]
  · rw [IdMap.getElem?_insert]
    by_cases hid : id = other
    · subst other
      rw [if_pos rfl, exists_lastFor_concat_iff habove hkey, hvalue, Option.some_inj, Except.ok.injEq]
    · have hother : ¬Spells other.toInt entry.1 := fun hspells => hid (eq_of_spells hkey hspells)
      rw [if_neg hid, hbefore.getElem?_eq_some_iff]
      simp only [lastFor_concat_iff hother, List.mem_append, List.mem_singleton, or_and_right, exists_or,
        exists_eq_left]
      exact (or_iff_left fun hlast => hother hlast.1.1).symm

theorem tabulates_of_readTable (hascending : Json.Ascending members) (hread : readTable read members = .ok table) :
    Tabulates read members table := by
  induction members using List.reverseRecOn generalizing table with
  | nil =>
    cases hread
    exact ⟨by simp [Json.keys], by simp⟩
  | append_singleton before entry ih =>
    obtain ⟨hbefore, habove⟩ := Json.ascending_concat.mp hascending
    rw [readTable_concat] at hread
    obtain ⟨shorter, hshorter, hentry⟩ := Except.bind_eq_ok.mp hread
    obtain ⟨id, a, hkey, hvalue, rfl⟩ := readEntry_eq_ok_iff.mp hentry
    exact (ih hbefore hshorter).concat habove (idOfKey_eq_ok_iff.mp hkey) hvalue

/-- The first fault of all is that of the last member only if none of the others has one. -/
theorem firstFault_concat_iff (habove : ∀ key ∈ Json.keys before, key < entry.1) :
    FirstFault read (before ++ [entry]) e ↔
      FirstFault read before e ∨ (∀ other ∈ before, GoodEntry read other) ∧ EntryFault read entry e := by
  have hlater {other : String × Json} (hother : other ∈ before) : Text.bytes other.1 < Text.bytes entry.1 :=
    Text.bytes_lt (habove other.1 (Json.key_mem_keys hother))
  simp only [FirstFault, List.forall_mem_append, List.forall_mem_singleton]
  simp only [List.mem_append, List.mem_singleton, or_and_right, exists_or, exists_eq_left]
  refine or_congr (exists_congr fun first => and_congr_right fun hfirst => and_congr_right fun _ => ?_) ?_
  · exact and_iff_left fun hlt => absurd hlt (List.lt_asymm (hlater hfirst))
  · rw [and_comm]
    refine and_congr_left fun _ => ⟨fun hgood other hother => hgood.1 other hother (hlater hother), fun hgood => ?_⟩
    exact ⟨fun other hother _ => hgood other hother, fun hlt => absurd hlt (List.lt_irrefl _)⟩

theorem readTable_eq_error_iff (hascending : Json.Ascending members) :
    readTable read members = .error e ↔ FirstFault read members e := by
  induction members using List.reverseRecOn with
  | nil => exact ⟨nofun, nofun⟩
  | append_singleton before entry ih =>
    obtain ⟨hbefore, habove⟩ := Json.ascending_concat.mp hascending
    rw [readTable_concat, Except.bind_eq_error, ih hbefore, firstFault_concat_iff habove,
      ← exists_readTable_iff_good]
    simp only [readEntry_eq_error_iff, exists_and_right]

/-- A table of records under texts of their identifiers is read just if every key is such a text and every value is
a record. It then has the identifiers that the keys spell, each with the record under the greatest of the keys that
spell it, and no other; where it cannot be read, what is wrong is what is wrong with the first bad entry. Keys come
in the order of their bytes, which is not that of the identifiers. -/
theorem table_read_by_key_bytes (read : Json → Except Fault α) {members : Json.Members}
    (hascending : Json.Ascending members) :
    ((∃ table, readTable read members = .ok table) ↔ ∀ entry ∈ members, GoodEntry read entry) ∧
      (∀ table, readTable read members = .ok table → Tabulates read members table) ∧
      ∀ e, readTable read members = .error e ↔ FirstFault read members e :=
  ⟨exists_readTable_iff_good, fun _ => tabulates_of_readTable hascending, fun _ => readTable_eq_error_iff hascending⟩

/-- Four spellings of one identifier, of which the last one counts, and a bad key in front of a bad value. -/
theorem spellings_of_one_identifier :
    let named (name : String) := Json.object [("name", .string name)]
    let members := [(" 1", named "a"), ("+1", named "b"), ("01", named "c"), ("1", named "d")]
    (∃ table, readTable Tag.ofJson members = .ok table ∧ table[(1 : Int64)]? = some { name := "d" }) ∧
      readTable Tag.ofJson [("1", named "a"), ("2 3", .null), ("x", named "b")] = .error (.badKey "2 3") := by
  intro named members
  have hnamed (name : String) : Tag.ofJson (named name) = .ok { name := name } := rfl
  have hspells : ∀ entry ∈ members, Spells (1 : Int64).toInt entry.1 := by
    have hids : ∀ key ∈ Json.keys members, (idOfKey key).toOption = some 1 := by decide +kernel
    exact fun entry hentry =>
      idOfKey_eq_ok_iff.mp (Except.toOption_eq_some.mp (hids entry.1 (Json.key_mem_keys hentry)))
  constructor
  · have hascending : Json.Ascending members := by decide +kernel
    obtain ⟨hread, htabulates, -⟩ := table_read_by_key_bytes Tag.ofJson hascending
    have hgood : ∀ entry ∈ members, GoodEntry Tag.ofJson entry := by
      intro entry hentry
      refine ⟨⟨1, hspells entry hentry⟩, ?_⟩
      simp only [members, List.mem_cons, List.not_mem_nil, or_false] at hentry
      obtain rfl | rfl | rfl | rfl := hentry <;> exact ⟨_, hnamed _⟩
    have hgreatest : ∀ key ∈ Json.keys members, key ≤ "1" := by decide +kernel
    have hlast : ("1", named "d") ∈ members := by simp [members]
    obtain ⟨table, htable⟩ := hread.mpr hgood
    refine ⟨table, htable, ((htabulates table htable).getElem?_eq_some_iff 1 _).mpr ⟨_, hlast, ⟨?_, ?_⟩, hnamed "d"⟩⟩
    · exact hspells _ hlast
    · exact fun key hkey _ => Text.bytes_le_iff.mpr (hgreatest key hkey)
  · have hbad : ∀ id : Int64, ¬Spells id.toInt "2 3" := (idOfKey_eq_error_iff.mp (by rfl)).2
    have hfirst : GoodEntry Tag.ofJson ("1", named "a") :=
      ⟨⟨1, hspells ("1", named "d") (by simp [members])⟩, _, hnamed "a"⟩
    have hascending : Json.Ascending [("1", named "a"), ("2 3", .null), ("x", named "b")] := by decide +kernel
    obtain ⟨-, -, herror⟩ := table_read_by_key_bytes Tag.ofJson hascending
    refine (herror _).mpr ⟨("2 3", .null), by simp, .key hbad, ?_⟩
    simp only [List.forall_mem_cons, Text.bytes_lt_iff]
    refine ⟨fun _ => hfirst, fun hlt => ?_, fun hlt => ?_, nofun⟩
    · exact absurd hlt (by decide +kernel)
    · exact absurd hlt (by decide +kernel)

end UptimeSync.Wire
