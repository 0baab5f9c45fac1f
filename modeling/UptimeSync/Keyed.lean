namespace UptimeSync.Keyed

/-- Puts a value under a key: in the place of the one that is there, otherwise at the end. -/
def insert (entries : List (String × α)) (key : String) (value : α) : List (String × α) :=
  match entries with
  | [] => [(key, value)]
  | (k, v) :: rest => if k = key then (key, value) :: rest else (k, v) :: insert rest key value

theorem lookup_insert_self (entries : List (String × α)) (key : String) (value : α) :
    (insert entries key value).lookup key = some value := by
  induction entries with
  | nil => simp [insert]
  | cons entry rest ih =>
    obtain ⟨k, v⟩ := entry
    by_cases h : k = key
    · simp [insert, h]
    · have hkey : (key == k) = false := by simpa using Ne.symm h
      simp [insert, List.lookup_cons, h, hkey, ih]

theorem lookup_insert_of_ne (entries : List (String × α)) {key other : String} (value : α)
    (hne : other ≠ key) : (insert entries key value).lookup other = entries.lookup other := by
  have hother : (other == key) = false := by simpa using hne
  induction entries with
  | nil => simp [insert, List.lookup_cons, hother]
  | cons entry rest ih =>
    obtain ⟨k, v⟩ := entry
    by_cases h : k = key
    · simp [insert, List.lookup_cons, h, hother]
    · simp [insert, List.lookup_cons, h, ih]

end UptimeSync.Keyed
