import UptimeSync.Store.Received
import UptimeSync.Wire.IdMap

namespace UptimeSync

variable {α : Type}

theorem IdMap.getElem?_insert (table : IdMap α) (id other : Int64) (a : α) :
    (table.insert id a)[other]? = if id = other then some a else table[other]? := by
  rw [Std.ExtTreeMap.getElem?_insert]
  simp

theorem IdMap.mem_insert {table : IdMap α} {id other : Int64} {a : α} :
    other ∈ table.insert id a ↔ id = other ∨ other ∈ table := by
  rw [Std.ExtTreeMap.mem_insert, Std.compare_eq_iff_eq]

theorem IdMap.getElem?_erase (table : IdMap α) (id other : Int64) :
    (table.erase id)[other]? = if id = other then none else table[other]? := by
  rw [Std.ExtTreeMap.getElem?_erase]
  simp

theorem IdMap.getElem?_modify (table : IdMap α) (id other : Int64) (f : α → α) :
    (table.modify id f)[other]? = if id = other then table[other]?.map f else table[other]? := by
  rw [Std.ExtTreeMap.getElem?_modify]
  by_cases hid : id = other
  · subst id
    simp
  · simp [hid]

theorem IdMap.erase_of_absent {table : IdMap α} {id : Int64} (habsent : table[id]? = none) :
    table.erase id = table := by
  refine Std.ExtTreeMap.ext_getElem? fun other => ?_
  rw [getElem?_erase]
  by_cases hid : id = other
  · rw [if_pos hid, ← hid, habsent]
  · rw [if_neg hid]

theorem IdMap.modify_of_absent {table : IdMap α} {id : Int64} (habsent : table[id]? = none) (f : α → α) :
    table.modify id f = table := by
  refine Std.ExtTreeMap.ext_getElem? fun other => ?_
  rw [getElem?_modify]
  by_cases hid : id = other
  · rw [if_pos hid, ← hid, habsent, Option.map_none]
  · rw [if_neg hid]

theorem IdMap.insert_of_present {table : IdMap α} {id : Int64} {a : α} (hpresent : table[id]? = some a)
    (f : α → α) : table.insert id (f a) = table.modify id f := by
  refine Std.ExtTreeMap.ext_getElem? fun other => ?_
  rw [getElem?_insert, getElem?_modify]
  by_cases hid : id = other
  · rw [if_pos hid, if_pos hid, ← hid, hpresent, Option.map_some]
  · rw [if_neg hid, if_neg hid]

theorem IdMap.insert_comm {first second : Int64} (hne : first ≠ second) (table : IdMap α) (a b : α) :
    (table.insert first a).insert second b = (table.insert second b).insert first a := by
  refine Std.ExtTreeMap.ext_getElem? fun id => ?_
  simp only [getElem?_insert]
  by_cases hfirst : first = id
  · subst hfirst
    simp [Ne.symm hne]
  · simp [hfirst]

theorem IdMap.insert_insert (table : IdMap α) (id : Int64) (a b : α) :
    (table.insert id a).insert id b = table.insert id b := by
  refine Std.ExtTreeMap.ext_getElem? fun other => ?_
  simp only [getElem?_insert]
  by_cases hid : id = other
  · rw [if_pos hid, if_pos hid]
  · rw [if_neg hid, if_neg hid, if_neg hid]

/-- The values of a table come in the order of their identifiers. -/
theorem IdMap.values_eq_map_toList (table : IdMap α) : table.values = table.toList.map Prod.snd := by
  have hfold : table.values = table.foldr (fun _ a later => a :: later) [] := by
    obtain ⟨⟨entries⟩⟩ := table
    induction entries using Quotient.ind
    rfl
  rw [hfold, Std.ExtTreeMap.foldr_eq_foldr_toList]
  induction table.toList with
  | nil => rfl
  | cons entry rest ih => rw [List.foldr_cons, List.map_cons, ih]

theorem IdMap.mem_values {table : IdMap α} {a : α} :
    a ∈ table.values ↔ ∃ id : Int64, table[id]? = some a := by
  rw [values_eq_map_toList, List.mem_map]
  constructor
  · rintro ⟨⟨id, _⟩, hentry, rfl⟩
    exact ⟨id, Std.ExtTreeMap.mem_toList_iff_getElem?_eq_some.mp hentry⟩
  · rintro ⟨id, hfound⟩
    exact ⟨(id, a), Std.ExtTreeMap.mem_toList_iff_getElem?_eq_some.mpr hfound, rfl⟩

/-- If every value lies under its own identifier, the values are in strictly ascending order. -/
theorem IdMap.pairwise_values {table : IdMap α} {key : α → Int64}
    (hkeyed : ∀ (id : Int64) (a : α), table[id]? = some a → key a = id) :
    table.values.Pairwise (key · < key ·) := by
  rw [values_eq_map_toList, List.pairwise_map]
  refine table.ordered_keys_toList.imp_of_mem fun {first second} hfirst hsecond horder => ?_
  rw [hkeyed _ _ (Std.ExtTreeMap.mem_toList_iff_getElem?_eq_some.mp hfirst),
    hkeyed _ _ (Std.ExtTreeMap.mem_toList_iff_getElem?_eq_some.mp hsecond)]
  exact Std.compare_eq_lt.mp horder

/-- Of several values with one identifier the last one is found. -/
theorem IdMap.getElem?_foldl_insert (key : α → Int64) (items : List α) (table : IdMap α) (id : Int64) :
    (items.foldl (fun table a => table.insert (key a) a) table)[id]? =
      (items.reverse.find? (key · == id)).or table[id]? := by
  induction items generalizing table with
  | nil => simp
  | cons a rest ih =>
    rw [List.foldl_cons, ih, getElem?_insert, List.reverse_cons, List.find?_append, Option.or_assoc]
    congr 1
    by_cases hid : key a = id
    · simp [hid]
    · simp [hid]

namespace Received

/-- The entry of a table for an identifier. A table that was never received has no entries. -/
def find? (table : Received (IdMap α)) (id : Int64) : Option α :=
  (table.getD ∅)[id]?

@[simp] theorem find?_notYet (id : Int64) : (notYet : Received (IdMap α)).find? id = none := by
  change (∅ : IdMap α)[id]? = none
  simp

@[simp] theorem find?_value (table : IdMap α) (id : Int64) :
    (value table).find? id = table[id]? := rfl

theorem find?_insert (table : Received (IdMap α)) (id other : Int64) (a : α) :
    (value ((table.getD ∅).insert id a)).find? other =
      if id = other then some a else table.find? other :=
  IdMap.getElem?_insert ..

/-- Taking an entry out of a table takes out no other entry. It does not make a table. -/
theorem find?_erase (table : Received (IdMap α)) (id other : Int64) :
    (table.map (·.erase id)).find? other = if id = other then none else table.find? other := by
  cases table with
  | notYet =>
    rw [map, find?_notYet, ite_self]
  | value entries => exact IdMap.getElem?_erase entries id other

/-- Changing an entry of a table changes no other entry, and makes none that is not there. -/
theorem find?_modify (table : Received (IdMap α)) (id other : Int64) (f : α → α) :
    (table.map (·.modify id f)).find? other =
      if id = other then (table.find? other).map f else table.find? other := by
  cases table with
  | notYet => rw [map, find?_notYet, Option.map_none, ite_self]
  | value entries => exact IdMap.getElem?_modify entries id other f

theorem exists_of_isSet {r : Received α} (hset : r.isSet = true) : ∃ a, r = value a := by
  cases r with
  | notYet => cases hset
  | value a => exact ⟨a, rfl⟩

@[simp] theorem isSet_map {β : Type} (f : α → β) (r : Received α) : (r.map f).isSet = r.isSet := by
  cases r <;> rfl

/-- What changes nothing in an empty table may as well be done to a table that was never received. -/
theorem getD_map {f : IdMap α → IdMap α} (hempty : f ∅ = ∅) (table : Received (IdMap α)) :
    (table.map f).getD ∅ = f (table.getD ∅) := by
  cases table with
  | notYet => exact hempty.symm
  | value entries => rfl

theorem map_modify_of_absent {table : Received (IdMap α)} {id : Int64} (habsent : table.find? id = none)
    (f : α → α) : table.map (·.modify id f) = table := by
  cases table with
  | notYet => rfl
  | value entries => exact congrArg value (IdMap.modify_of_absent habsent f)

theorem map_erase_of_absent {table : Received (IdMap α)} {id : Int64} (habsent : table.find? id = none) :
    table.map (·.erase id) = table := by
  cases table with
  | notYet => rfl
  | value entries => exact congrArg value (IdMap.erase_of_absent habsent)

/-- Holds of a table before and after the entry for an identifier was taken out. There need not have
been one, nor a table at all. -/
def Dropped (id : Int64) (before after : Received (IdMap α)) : Prop :=
  after.isSet = before.isSet ∧
    ∀ other, after.find? other = if id = other then none else before.find? other

/-- Holds of a table before and after a value was put under an identifier. -/
def Gained (id : Int64) (a : α) (before after : Received (IdMap α)) : Prop :=
  after.isSet = true ∧
    ∀ other, after.find? other = if id = other then some a else before.find? other

theorem dropped_erase (id : Int64) (table : Received (IdMap α)) :
    Dropped id table (table.map (·.erase id)) :=
  ⟨isSet_map _ table, find?_erase table id⟩

theorem gained_insert (id : Int64) (a : α) (table : Received (IdMap α)) :
    Gained id a table (value ((table.getD ∅).insert id a)) :=
  ⟨rfl, fun other => find?_insert table id other a⟩

end Received
end UptimeSync
