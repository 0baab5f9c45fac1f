import UptimeSync.Proofs.Json.Members

namespace UptimeSync.Json

variable {members additions : Members} {key other : String} {v : Json}

theorem lookup_cons (entry : String × Json) (rest : Members) (key : String) :
    List.lookup key (entry :: rest) = if key = entry.1 then some entry.2 else rest.lookup key := by
  rw [List.lookup_cons]
  by_cases hkey : key = entry.1
  · simp [hkey]
  · simp [hkey, beq_eq_false_iff_ne.mpr hkey]

theorem mem_keys_iff : key ∈ keys members ↔ (members.lookup key).isSome := by
  constructor
  · intro hkey
    rw [← Option.ne_none_iff_isSome]
    intro hnone
    obtain ⟨entry, hentry, rfl⟩ := List.mem_map.mp hkey
    simpa using List.lookup_eq_none_iff.mp hnone entry hentry
  · intro hfound
    obtain ⟨v, hv⟩ := Option.isSome_iff_exists.mp hfound
    exact key_mem_keys (mem_of_lookup hv)

theorem mem_iff_lookup (hnodup : (keys members).Nodup) {entry : String × Json} :
    entry ∈ members ↔ members.lookup entry.1 = some entry.2 :=
  ⟨lookup_of_mem hnodup, mem_of_lookup⟩

theorem lookup_insertMember (members : Members) (key : String) (v : Json) (other : String) :
    (insertMember members key v).lookup other = if other = key then some v else members.lookup other := by
  induction members with
  | nil => exact lookup_cons (key, v) [] other
  | cons entry rest ih =>
    rw [insertMember]
    split
    · exact lookup_cons (key, v) (entry :: rest) other
    · split
      · next heq =>
        rw [lookup_cons, lookup_cons, ← heq]
        split <;> rfl
      · next hne =>
        rw [lookup_cons, lookup_cons, ih]
        by_cases hother : other = key
        · subst hother
          simp [hne]
        · simp [hother]

/-- Members that are added hide the ones that were there under their keys; of two that are added the later
one is found. -/
theorem lookup_insertMembers (members additions : Members) (key : String) :
    (insertMembers members additions).lookup key =
      (additions.reverse.lookup key).or (members.lookup key) := by
  induction additions generalizing members with
  | nil => rfl
  | cons entry rest ih =>
    have hstep : insertMembers members (entry :: rest) =
      insertMembers (insertMember members entry.1 entry.2) rest := rfl
    rw [hstep, ih, lookup_insertMember, List.reverse_cons, List.lookup_append, Option.or_assoc, lookup_cons]
    by_cases hkey : key = entry.1 <;> simp [hkey]

theorem lookup_insertMembers_of_nodup (hnodup : (keys additions).Nodup) (members : Members) (key : String) :
    (insertMembers members additions).lookup key = (additions.lookup key).or (members.lookup key) := by
  rw [lookup_insertMembers, lookup_of_perm hnodup additions.reverse_perm.symm]

/-- Members in ascending order are determined by what is found under each key. -/
theorem Ascending.ext_lookup {first second : Members} (hfirst : Ascending first) (hsecond : Ascending second)
    (hlookup : ∀ key, first.lookup key = second.lookup key) : first = second := by
  refine hfirst.eq_of_perm hsecond ((List.perm_ext_iff_of_nodup ?_ ?_).mpr fun entry => ?_)
  · exact hfirst.nodup_keys.of_map
  · exact hsecond.nodup_keys.of_map
  · rw [mem_iff_lookup hfirst.nodup_keys, mem_iff_lookup hsecond.nodup_keys, hlookup]

/-- Members that are added leave nothing of the ones that were there just if they have all their keys. -/
theorem insertMembers_eq_iff (hmembers : Ascending members) (hadditions : Ascending additions) :
    insertMembers members additions = additions ↔ ∀ key ∈ keys members, key ∈ keys additions := by
  have hfound := lookup_insertMembers_of_nodup hadditions.nodup_keys members
  constructor
  · intro heq key hkey
    rw [mem_keys_iff] at hkey
    rw [mem_keys_iff, ← heq, hfound, Option.isSome_or, hkey, Bool.or_true]
  · intro hsub
    refine (hmembers.insertMembers additions).ext_lookup hadditions fun key => ?_
    rw [hfound]
    cases hadded : additions.lookup key with
    | some v => rfl
    | none =>
      rw [Option.none_or]
      refine lookup_of_not_mem fun hkey => ?_
      have hcovered := mem_keys_iff.mp (hsub key hkey)
      rw [hadded] at hcovered
      cases hcovered

end UptimeSync.Json
