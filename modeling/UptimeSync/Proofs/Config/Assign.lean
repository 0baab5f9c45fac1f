import UptimeSync.Config.Load
import UptimeSync.Proofs.Results

namespace UptimeSync

theorem Text.split_ne_nil (separator : Char) (cs : List Char) : split separator cs ≠ [] := by
  cases cs with
  | nil => nofun
  | cons c rest =>
    rw [split]
    split
    · nofun
    · split <;> nofun

namespace Config

namespace Path

theorem readSegment?_eq_some {cs : List Char} {path : Path} (hread : readSegment? cs = some path) :
    ∃ name indices, path = .key name :: indices := by
  rw [readSegment?] at hread
  simp only [Option.bind_eq_bind] at hread
  split at hread
  · cases hread
  · split at hread
    · cases hread
    · obtain ⟨indices, -, hpath⟩ := Option.bind_eq_some_iff.mp hread
      cases hpath
      exact ⟨_, indices, rfl⟩

/-- A path leads from the root to an entry of it. -/
theorem ofKey_eq_cons (key : String) : ∃ name inner, ofKey key = .key name :: inner := by
  rw [ofKey]
  cases hread : read? key with
  | none => exact ⟨_, _, rfl⟩
  | some path =>
    rw [read?] at hread
    obtain ⟨segments, hsegments, rfl⟩ := Option.map_eq_some_iff.mp hread
    cases hsplit : Text.split '.' key.toList with
    | nil => exact absurd hsplit (Text.split_ne_nil _ _)
    | cons first rest =>
      rw [hsplit, List.mapM_cons] at hsegments
      simp only [Option.bind_eq_bind, Option.bind_eq_some_iff] at hsegments
      obtain ⟨segment, hsegment, others, -, hwhole⟩ := hsegments
      cases hwhole
      obtain ⟨name, indices, rfl⟩ := readSegment?_eq_some hsegment
      exact ⟨name, indices ++ others.flatten, rfl⟩

/-- Holds of the paths that lead to a field of a section, or into one. -/
def isFieldwise : Path → Bool
  | .key _ :: .key _ :: _ => true
  | _ => false

end Path

/-- A section of a configuration, by the names of it and of its fields. -/
structure Section where
  name : String
  fields : List String
deriving DecidableEq

namespace Value

/-- Holds of lists and tables. -/
def isCompound : Value → Bool
  | list _ | table _ => true
  | _ => false

def isList : Value → Bool
  | list _ => true
  | _ => false

/-- The value that is stated for a field of a section, by name or by position. -/
def stated? (root : Value) (part : Section) (field : String) : Option Value := do
  let entries ← root.entries.lookup part.name >>= fields? part.fields
  entries.lookup field

/-- The value that the last of the entries of a layer for a field of a section brings. -/
def assigned? (layer : Entries) (part : Section) (field : String) : Option Value :=
  (layer.filter fun entry => Path.ofKey entry.1 = [.key part.name, .key field]).getLast?.map Prod.snd

/-- Holds of a layer that sets a section field by field, if at all. What it is laid over must not list the
fields of the section by their positions then. -/
def LaysFields (layer : Entries) (part : Section) (root : Value) : Prop :=
  ∀ entry ∈ layer, (Path.ofKey entry.1).head? = some (.key part.name) →
    (Path.ofKey entry.1).isFieldwise = true ∧ (root.entries.lookup part.name).any isList = false

instance (layer : Entries) (part : Section) (root : Value) : Decidable (LaysFields layer part root) :=
  inferInstanceAs (Decidable (∀ entry ∈ layer, _))

theorem assigned?_cons (key : String) (v : Value) (rest : Entries) (part : Section) (field : String) :
    assigned? ((key, v) :: rest) part field = (assigned? rest part field).or
      (if Path.ofKey key = [.key part.name, .key field] then some v else none) := by
  rw [assigned?, assigned?, List.filter_cons]
  by_cases hpath : Path.ofKey key = [.key part.name, .key field]
  · simp only [hpath, decide_true, if_true, List.getLast?_cons]
    cases (rest.filter _).getLast? <;> rfl
  · simp [hpath]

theorem stated?_of_not_list {root : Value} {part : Section}
    (hlist : (root.entries.lookup part.name).any isList = false) (field : String) :
    root.stated? part field = ((root.entries.lookup part.name).getD nil).entries.lookup field := by
  rw [stated?]
  cases hfound : root.entries.lookup part.name with
  | none => rfl
  | some v =>
    cases v with
    | list items =>
      rw [hfound] at hlist
      cases hlist
    | _ => rfl

theorem merge_of_plain {v : Value} (hplain : v.isCompound = false) (key : String) (target : Entries) :
    merge key v target = Keyed.insert target key v := by
  cases v with
  | table => cases hplain
  | _ => rw [merge]; nofun; nofun

theorem isCompound_assign {v root after : Value} {path : Path} (hpath : path ≠ [])
    (hassign : assign v path root = .ok after) : after.isCompound = true := by
  cases path with
  | nil => exact absurd rfl hpath
  | cons step rest =>
    cases step with
    | key name =>
      cases rest with
      | nil =>
        cases hassign
        rfl
      | cons =>
        obtain ⟨inner, -, hafter⟩ := Except.bind_eq_ok.mp hassign
        cases hafter
        rfl
    | index i =>
      obtain ⟨place, -, hitem⟩ := Except.bind_eq_ok.mp hassign
      obtain ⟨item, -, hafter⟩ := Except.bind_eq_ok.mp hitem
      cases hafter
      rfl

variable {root after v : Value} {part : Section}

/-- Plain values are put in the place of what a key had. -/
theorem assign_key_of_plain (hplain : v.isCompound = false) (name : String) (root : Value) :
    assign v [.key name] root = .ok (table (Keyed.insert root.entries name v)) := by
  rw [assign, merge_of_plain hplain]

/-- What is assigned to a path is put under the key that the path begins with. -/
theorem exists_inner_of_assign (hplain : v.isCompound = false) {name : String} {rest : Path}
    (hassign : assign v (.key name :: rest) root = .ok after) :
    ∃ inner, assign v rest ((root.entries.lookup name).getD nil) = .ok inner ∧
      after = table (Keyed.insert root.entries name inner) := by
  cases rest with
  | nil =>
    rw [assign_key_of_plain hplain] at hassign
    cases hassign
    exact ⟨v, rfl, rfl⟩
  | cons step rest =>
    obtain ⟨inner, hinner, hafter⟩ := Except.bind_eq_ok.mp hassign
    cases hafter
    exact ⟨inner, hinner, rfl⟩

/-- A plain value that is assigned to a path changes nothing in the table that the path begins in but the entry
under its first key. If the path leads on from there, that entry becomes a list or a table. -/
theorem lookup_assign (hplain : v.isCompound = false) {name : String} {rest : Path}
    (hassign : assign v (.key name :: rest) root = .ok after) (key : String) :
    after.entries.lookup key =
        (if (.key name :: rest : Path) = [.key key] then some v else root.entries.lookup key) ∨
      ∃ w, after.entries.lookup key = some w ∧ w.isCompound = true := by
  obtain ⟨inner, hinner, rfl⟩ := exists_inner_of_assign hplain hassign
  by_cases hkey : name = key
  · subst hkey
    have hfound := Keyed.lookup_insert_self root.entries name inner
    cases rest with
    | nil =>
      cases hinner
      rw [if_pos rfl]
      exact .inl hfound
    | cons step deeper => exact .inr ⟨inner, hfound, isCompound_assign (List.cons_ne_nil _ _) hinner⟩
  · rw [if_neg (by simp [hkey])]
    exact .inl (Keyed.lookup_insert_of_ne root.entries inner (Ne.symm hkey))

/-- An entry of a layer that sets a section field by field leaves the section in that form, and changes no
field but its own. One that leads into a field makes a list or a table of it. -/
theorem stated?_assign {key : String} (hplain : v.isCompound = false)
    (hfields : (Path.ofKey key).head? = some (.key part.name) →
      (Path.ofKey key).isFieldwise = true ∧ (root.entries.lookup part.name).any isList = false)
    (hassign : assign v (Path.ofKey key) root = .ok after) :
    ((root.entries.lookup part.name).any isList = false →
      (after.entries.lookup part.name).any isList = false) ∧
    ∀ field, after.stated? part field =
        (if Path.ofKey key = [.key part.name, .key field] then some v else root.stated? part field) ∨
      ∃ w, after.stated? part field = some w ∧ w.isCompound = true := by
  obtain ⟨name, rest, hpath⟩ := Path.ofKey_eq_cons key
  rw [hpath] at hfields hassign ⊢
  obtain ⟨inner, hinner, rfl⟩ := exists_inner_of_assign hplain hassign
  by_cases hname : name = part.name
  · subst hname
    obtain ⟨hfieldwise, hlist⟩ := hfields rfl
    have hfound : (table (Keyed.insert root.entries part.name inner)).entries.lookup part.name = some inner :=
      Keyed.lookup_insert_self root.entries part.name inner
    match rest, hfieldwise with
    | .key target :: deeper, _ =>
      have hkept : ((table (Keyed.insert root.entries part.name inner)).entries.lookup part.name).any isList =
          false := by
        obtain ⟨value, -, rfl⟩ := exists_inner_of_assign hplain hinner
        rw [hfound]
        rfl
      refine ⟨fun _ => hkept, fun field => ?_⟩
      rw [stated?_of_not_list hkept, stated?_of_not_list hlist, hfound]
      simpa using lookup_assign hplain hinner field
  · have hother : (table (Keyed.insert root.entries name inner)).entries.lookup part.name =
        root.entries.lookup part.name := Keyed.lookup_insert_of_ne root.entries inner (Ne.symm hname)
    refine ⟨fun hlist => hother.symm ▸ hlist, fun field => .inl ?_⟩
    rw [if_neg (by simp [hname]), stated?, stated?, hother]

/-- The last plain entry of a layer for a field is what is stated for it in the end, and without one it is what
was stated before. The only other thing that a layer can make of a field is a list or a table. -/
theorem stated?_overlay {layer : Entries} (hplain : ∀ entry ∈ layer, entry.2.isCompound = false)
    (hlays : LaysFields layer part root) (hoverlay : root.overlay layer = .ok after) (field : String) :
    after.stated? part field = (assigned? layer part field).or (root.stated? part field) ∨
      ∃ w, after.stated? part field = some w ∧ w.isCompound = true := by
  induction layer generalizing root with
  | nil =>
    cases hoverlay
    exact .inl rfl
  | cons entry rest ih =>
    obtain ⟨key, v⟩ := entry
    rw [overlay, List.foldlM_cons] at hoverlay
    obtain ⟨next, hassign, hrest⟩ := Except.bind_eq_ok.mp hoverlay
    rw [List.forall_mem_cons] at hplain
    have hfirst := hlays _ List.mem_cons_self
    obtain ⟨hkept, hstep⟩ := stated?_assign hplain.1 hfirst hassign
    have hlaysRest : LaysFields rest part next := by
      intro later hlater henters
      obtain ⟨hfieldwise, hlist⟩ := hlays later (List.mem_cons_of_mem _ hlater) henters
      exact ⟨hfieldwise, hkept hlist⟩
    obtain hrun | hcompound := ih hplain.2 hlaysRest hrest
    · rw [hrun, assigned?_cons]
      cases assigned? rest part field with
      | some w => exact .inl rfl
      | none =>
        obtain hnext | hcompound := hstep field
        · left
          rw [Option.none_or, hnext]
          split <;> rfl
        · exact .inr hcompound
    · exact .inr hcompound

end Value
end Config
end UptimeSync
