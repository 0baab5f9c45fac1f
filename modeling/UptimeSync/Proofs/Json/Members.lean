import Mathlib.Data.List.Nodup
import Mathlib.Data.String.Basic
import UptimeSync.Json.Basic

namespace UptimeSync.Json

def keys (members : Members) : List String :=
  members.map Prod.fst

/-- Holds of members that are listed by ascending key, each key once. -/
def Ascending (members : Members) : Prop :=
  (keys members).Pairwise (· < ·)

instance (members : Members) : Decidable (Ascending members) :=
  inferInstanceAs (Decidable ((keys members).Pairwise (· < ·)))

variable {members additions : Members} {key : String} {v : Json}

theorem keys_append (first later : Members) : keys (first ++ later) = keys first ++ keys later :=
  List.map_append

theorem key_mem_keys {entry : String × Json} (hentry : entry ∈ members) : entry.1 ∈ keys members :=
  List.mem_map_of_mem hentry

theorem Ascending.nodup_keys (hascending : Ascending members) : (keys members).Nodup :=
  List.Pairwise.imp (fun hlt => hlt.ne) hascending

theorem Ascending.filter (hascending : Ascending members) (p : String × Json → Bool) :
    Ascending (members.filter p) :=
  List.Pairwise.sublist (List.filter_sublist.map Prod.fst) hascending

/-- The last of members in ascending order comes after all others. -/
theorem ascending_concat {before : Members} {entry : String × Json} :
    Ascending (before ++ [entry]) ↔ Ascending before ∧ ∀ key ∈ keys before, key < entry.1 := by
  rw [Ascending, keys_append, List.pairwise_append, ← Ascending]
  refine and_congr_right fun _ => ?_
  simp [keys]

/-- Members in ascending order are determined by which ones they are. -/
theorem Ascending.eq_of_perm {first second : Members} (hfirst : Ascending first) (hsecond : Ascending second)
    (hperm : first.Perm second) : first = second := by
  refine hperm.eq_of_pairwise ?_ (List.pairwise_map.mp hfirst) (List.pairwise_map.mp hsecond)
  intro a b _ _ hlt hgt
  exact absurd hgt hlt.asymm

theorem lookup_of_mem (hnodup : (keys members).Nodup) (hmem : (key, v) ∈ members) :
    members.lookup key = some v := by
  induction members with
  | nil => cases hmem
  | cons entry rest ih =>
    obtain ⟨hfresh, hrest⟩ := List.nodup_cons.mp hnodup
    obtain rfl | hmem := List.mem_cons.mp hmem
    · rw [List.lookup_cons_self]
    · have hne : (key == entry.1) = false := by
        rw [beq_eq_false_iff_ne]
        rintro rfl
        exact hfresh (List.mem_map.mpr ⟨_, hmem, rfl⟩)
      rw [List.lookup_cons, hne]
      exact ih hrest hmem

theorem lookup_of_not_mem (habsent : key ∉ keys members) : members.lookup key = none := by
  rw [List.lookup_eq_none_iff]
  intro entry hentry
  rw [bne_iff_ne]
  rintro rfl
  exact habsent (key_mem_keys hentry)

theorem mem_of_lookup (hfound : members.lookup key = some v) : (key, v) ∈ members := by
  obtain ⟨before, after, rfl, -⟩ := List.lookup_eq_some_iff.mp hfound
  exact List.mem_append_right before List.mem_cons_self

/-- Members with the same keys in any order are found alike. -/
theorem lookup_of_perm {first second : Members} (hnodup : (keys first).Nodup) (hperm : first.Perm second)
    (key : String) : second.lookup key = first.lookup key := by
  cases hfound : first.lookup key with
  | some v =>
    have hmem : (key, v) ∈ second := hperm.subset (mem_of_lookup hfound)
    exact lookup_of_mem ((hperm.map Prod.fst).nodup hnodup) hmem
  | none =>
    refine lookup_of_not_mem fun hmem => ?_
    obtain ⟨⟨_, v⟩, hentry, rfl⟩ := List.mem_map.mp hmem
    rw [lookup_of_mem hnodup (hperm.symm.subset hentry)] at hfound
    cases hfound

/-- Leaving out members by their keys does not hide the others. -/
theorem lookup_filter {p : String → Bool} (hkey : p key = true) (members : Members) :
    (members.filter fun entry => p entry.1).lookup key = members.lookup key := by
  induction members with
  | nil => rfl
  | cons entry rest ih =>
    cases hentry : p entry.1 with
    | true => rw [List.filter_cons, if_pos hentry, List.lookup_cons, List.lookup_cons, ih]
    | false =>
      have hne : (key == entry.1) = false := by
        rw [beq_eq_false_iff_ne]
        rintro rfl
        rw [hkey] at hentry
        cases hentry
      rw [List.filter_cons, hentry, if_neg Bool.false_ne_true, ih, List.lookup_cons, hne]

/-- The members for the fields that have a value. -/
def present (fields : List (String × Option Json)) : Members :=
  fields.filterMap fun field => field.2.map (field.1, ·)

@[simp] theorem present_nil : present [] = [] := rfl

theorem present_cons (key : String) (value : Option Json) (rest : List (String × Option Json)) :
    present ((key, value) :: rest) = value.toList.map (key, ·) ++ present rest := by
  cases value <;> rfl

theorem keys_present (fields : List (String × Option Json)) :
    (keys (present fields)).Sublist (fields.map Prod.fst) := by
  induction fields with
  | nil => exact .refl _
  | cons field rest ih =>
    obtain ⟨key, value⟩ := field
    rw [present_cons, keys_append]
    cases value with
    | none => exact ih.cons key
    | some v => exact ih.cons_cons key

theorem lookup_present {fields : List (String × Option Json)} {value : Option Json}
    (hnodup : (fields.map Prod.fst).Nodup) (hfield : (key, value) ∈ fields) :
    (present fields).lookup key = value := by
  induction fields with
  | nil => cases hfield
  | cons field rest ih =>
    obtain ⟨name, first⟩ := field
    obtain ⟨hfresh, hrest⟩ := List.nodup_cons.mp hnodup
    rw [present_cons, List.lookup_append]
    obtain heq | hlater := List.mem_cons.mp hfield
    · cases heq
      have habsent : (present rest).lookup key = none :=
        lookup_of_not_mem fun hkey => hfresh ((keys_present rest).subset hkey)
      cases value with
      | none => exact habsent
      | some v => simp
    · have hne : key ≠ name := by
        rintro rfl
        exact hfresh (List.mem_map.mpr ⟨_, hlater, rfl⟩)
      have hskip : (first.toList.map (name, ·)).lookup key = none :=
        lookup_of_not_mem (by cases first <;> simp [keys, hne])
      rw [hskip, Option.none_or]
      exact ih hrest hlater

/-- A member with a new key is added to the others. -/
theorem insertMember_perm (habsent : key ∉ keys members) (v : Json) :
    (insertMember members key v).Perm ((key, v) :: members) := by
  induction members with
  | nil => exact .refl _
  | cons entry rest ih =>
    obtain ⟨hne, habsent⟩ : key ≠ entry.1 ∧ key ∉ keys rest := by
      rwa [keys, List.map_cons, List.mem_cons, not_or] at habsent
    rw [insertMember, if_neg hne]
    split
    · exact .refl _
    · exact ((ih habsent).cons entry).trans (.swap (key, v) entry rest)

theorem insertMembers_perm (hnodup : (keys (members ++ additions)).Nodup) :
    (insertMembers members additions).Perm (members ++ additions) := by
  induction additions generalizing members with
  | nil =>
    rw [List.append_nil]
    exact .refl members
  | cons entry rest ih =>
    have hmiddle : (members ++ entry :: rest).Perm (entry :: (members ++ rest)) := List.perm_middle
    obtain ⟨hfresh, -⟩ := List.nodup_cons.mp ((hmiddle.map Prod.fst).nodup hnodup)
    have habsent : entry.1 ∉ keys members := by
      rw [List.map_append, List.mem_append, not_or] at hfresh
      exact hfresh.1
    have hinserted := (insertMember_perm habsent entry.2).append_right rest
    have hall := hinserted.trans hmiddle.symm
    exact (ih ((hall.map Prod.fst).symm.nodup hnodup)).trans hall

theorem mem_insertMember {entry : String × Json}
    (hentry : entry ∈ insertMember members key v) : entry = (key, v) ∨ entry ∈ members := by
  induction members with
  | nil => exact .inl (List.mem_singleton.mp hentry)
  | cons first rest ih =>
    rw [insertMember] at hentry
    split at hentry
    · exact List.mem_cons.mp hentry
    · split at hentry
      · exact (List.mem_cons.mp hentry).imp_right (List.mem_cons_of_mem first)
      · obtain rfl | hrest := List.mem_cons.mp hentry
        · exact .inr List.mem_cons_self
        · exact (ih hrest).imp_right (List.mem_cons_of_mem first)

theorem mem_insertMembers {entry : String × Json}
    (hentry : entry ∈ insertMembers members additions) : entry ∈ members ∨ entry ∈ additions := by
  induction additions generalizing members with
  | nil => exact .inl hentry
  | cons first rest ih =>
    have hlater : entry ∈ insertMembers (insertMember members first.1 first.2) rest := hentry
    obtain hinserted | hrest := ih hlater
    · obtain rfl | hmembers := mem_insertMember hinserted
      · exact .inr List.mem_cons_self
      · exact .inl hmembers
    · exact .inr (List.mem_cons_of_mem first hrest)

theorem mem_keys_insertMember {other : String} :
    other ∈ keys (insertMember members key v) ↔ other = key ∨ other ∈ keys members := by
  induction members with
  | nil => simp [insertMember, keys]
  | cons entry rest ih =>
    rw [insertMember]
    split
    · simp [keys]
    · split
      · next heq => simp [keys, heq]
      · have hcons (later : Members) : other ∈ keys (entry :: later) ↔ other = entry.1 ∨ other ∈ keys later :=
          List.mem_cons
        rw [hcons, hcons, ih, or_left_comm]

theorem Ascending.insertMember (hascending : Ascending members) (key : String) (v : Json) :
    Ascending (insertMember members key v) := by
  induction members with
  | nil => exact List.pairwise_singleton _ key
  | cons entry rest ih =>
    obtain ⟨hbelow, hrest⟩ := List.pairwise_cons.mp hascending
    rw [Json.insertMember]
    split
    · next hlt =>
      refine List.pairwise_cons.mpr ⟨fun other hother => ?_, hascending⟩
      obtain rfl | hother := List.mem_cons.mp hother
      · exact hlt
      · exact hlt.trans (hbelow other hother)
    · next hnot =>
      split
      · next heq =>
        subst heq
        exact hascending
      · next hne =>
        refine List.pairwise_cons.mpr ⟨fun other hother => ?_, ih hrest⟩
        obtain rfl | hother := mem_keys_insertMember.mp hother
        · exact (lt_or_gt_of_ne hne).resolve_left hnot
        · exact hbelow other hother

theorem Ascending.insertMembers (hascending : Ascending members) (additions : Members) :
    Ascending (insertMembers members additions) := by
  induction additions generalizing members with
  | nil => exact hascending
  | cons entry rest ih => exact ih (hascending.insertMember entry.1 entry.2)

/-- The members of an object that is written: they are listed in their order, whatever the order in which
they were given. -/
theorem ascending_written (members : Members) : Ascending (insertMembers [] members) := by
  have hnone : Ascending [] := List.Pairwise.nil
  exact hnone.insertMembers members

/-- Nothing is lost in writing members no two of which have one key. -/
theorem written_perm (hnodup : (keys members).Nodup) : (insertMembers [] members).Perm members := by
  have hall : (keys ([] ++ members)).Nodup := hnodup
  exact insertMembers_perm hall

end UptimeSync.Json
