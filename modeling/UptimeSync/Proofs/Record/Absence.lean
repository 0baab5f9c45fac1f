import UptimeSync.Proofs.Record.RoundTrip

namespace UptimeSync

namespace Json

variable {members : Members} {key : String}

/-- The members that do not stand under any of the given keys. -/
def without (members : Members) (gone : List String) : Members :=
  members.filter fun entry => !gone.contains entry.1

theorem without_insertMember (hnew : key ∉ keys members) (v : Json) :
    without (insertMember members key v) [key] = members := by
  have hkept {others : Members} (hothers : key ∉ keys others) : without others [key] = others := by
    refine List.filter_eq_self.mpr fun entry hentry => ?_
    have hne : entry.1 ≠ key := by
      rintro rfl
      exact hothers (key_mem_keys hentry)
    simpa using hne
  have hdropped (others : Members) : without ((key, v) :: others) [key] = without others [key] := by
    simp [without]
  induction members with
  | nil => exact (hdropped []).trans (hkept hnew)
  | cons entry rest ih =>
    obtain ⟨hne, hrest⟩ : key ≠ entry.1 ∧ key ∉ keys rest := by
      rwa [keys, List.map_cons, List.mem_cons, not_or] at hnew
    rw [insertMember, if_neg hne]
    split
    next => exact (hdropped (entry :: rest)).trans (hkept hnew)
    next =>
      rw [without, List.filter_cons, if_pos (by simpa using hne.symm)]
      exact congrArg (entry :: ·) (ih hrest)

end Json

namespace Wire

/-- Holds of the kinds of which null is. -/
def Kind.isLoose : Kind → Bool
  | strict _ => false
  | _ => true

theorem Kind.check_null {kind : Kind} (hloose : kind.isLoose = true) : kind.check .null = .ok () := by
  cases kind with
  | strict => cases hloose
  | _ => rfl

namespace Schema

variable {schema : Schema} {members : Json.Members} {gone : List String} {key : String} {slot : Slot} {e : Entries}

/-- Holds of keys under which an object has, if anything, null for a field. -/
def Null (schema : Schema) (members : Json.Members) (gone : List String) : Prop :=
  ∀ entry ∈ members, entry.1 ∈ gone → schema.knows entry.1 = true ∧ entry.2 = .null

/-- The laws of a record in which null stands for an absent value. -/
structure NullIsAbsent {α : Type} (schema : Schema) (ofJson : Json → Except Fault α) : Prop where
  /-- Fields that are null may be left out, any number of them. -/
  without (members : Json.Members) (record : α) (gone : List String) (hread : ofJson (.object members) = .ok record)
    (hnull : schema.Null members gone) : ofJson (.object (Json.without members gone)) = .ok record
  /-- A loosely typed field that is left out under all of its spellings may be null under any of them. -/
  insertNull (members : Json.Members) (record : α) (key : String) (slot : Slot)
    (hread : ofJson (.object members) = .ok record) (hslot : schema.slot? key = some slot)
    (hloose : slot.kind.isLoose = true) (hnew : ∀ other ∈ Json.keys members, slot.answersTo other = false) :
    ofJson (.object (Json.insertMember members key .null)) = .ok record

theorem rest_without (hnull : schema.Null members gone) :
    schema.rest (Json.without members gone) = schema.rest members := by
  rw [rest, Json.without, List.filter_filter]
  refine List.filter_congr fun entry hentry => ?_
  by_cases hgone : entry.1 ∈ gone
  · simp [(hnull entry hentry hgone).1]
  · simp [hgone]

theorem named_without_sublist (members : Json.Members) (gone : List String) :
    (schema.named (Json.without members gone)).Sublist (schema.named members) :=
  List.filter_sublist.filterMap _

/-- A slot for which null was left out is empty, which is null as well. -/
theorem value_without (hnodup : (Json.keys (schema.named members)).Nodup) (hnull : schema.Null members gone)
    (name : String) :
    (Entries.mk (schema.named (Json.without members gone))).value name =
      (Entries.mk (schema.named members)).value name := by
  simp only [Entries.value]
  induction members with
  | nil => rfl
  | cons entry rest ih =>
    obtain ⟨key, v⟩ := entry
    obtain ⟨hentry, hrest⟩ : (key ∈ gone → schema.knows key = true ∧ v = .null) ∧ schema.Null rest gone :=
      List.forall_mem_cons.mp hnull
    cases hslot : schema.slot? key with
    | none =>
      have hkept : key ∉ gone := by
        intro hgone
        rw [knows, hslot] at hentry
        cases (hentry hgone).1
      rw [named_cons_of_none hslot] at hnodup ⊢
      rw [Json.without, List.filter_cons, if_pos (by simpa using hkept), named_cons_of_none hslot]
      exact ih hnodup hrest
    | some slot =>
      rw [named_cons_of_some hslot] at hnodup ⊢
      obtain ⟨hfresh, hnodup⟩ := List.nodup_cons.mp hnodup
      by_cases hgone : key ∈ gone
      · rw [Json.without, List.filter_cons, if_neg (by simpa using hgone)]
        refine (ih hnodup hrest).trans ?_
        rw [(hentry hgone).2, List.lookup_cons]
        split
        next hname =>
          rw [beq_iff_eq] at hname
          rw [hname, Json.lookup_of_not_mem hfresh]
          rfl
        next => rfl
      · rw [Json.without, List.filter_cons, if_pos (by simpa using hgone), named_cons_of_some hslot,
          List.lookup_cons, List.lookup_cons]
        split
        next => rfl
        next => exact ih hnodup hrest

theorem ofMembers_without (hread : schema.ofMembers members = .ok e) (hnull : schema.Null members gone) :
    ∃ fewer, schema.ofMembers (Json.without members gone) = .ok fewer ∧ ∀ name, fewer.value name = e.value name := by
  obtain ⟨rfl, hchecked, hnodup⟩ := ofMembers_eq_ok_iff.mp hread
  refine ⟨_, ofMembers_eq_ok_iff.mpr ⟨rfl, ?_, ?_⟩, value_without hnodup hnull⟩
  · exact fun entry hentry => hchecked entry (List.mem_filter.mp hentry).1
  · exact hnodup.sublist ((named_without_sublist members gone).map Prod.fst)

/-- An object can still be read with null for a field that is not in it. -/
theorem exists_ofMembers_insertNull (hnames : (schema.slots.map Slot.name).Nodup)
    (hread : schema.ofMembers members = .ok e) (hslot : schema.slot? key = some slot)
    (hloose : slot.kind.isLoose = true) (hnew : ∀ other ∈ Json.keys members, slot.answersTo other = false)
    (habsent : key ∉ Json.keys members) :
    ∃ more, schema.ofMembers (Json.insertMember members key .null) = .ok more := by
  obtain ⟨rfl, hchecked, hnodup⟩ := ofMembers_eq_ok_iff.mp hread
  have hperm : (schema.named (Json.insertMember members key .null)).Perm
      ((slot.name, .null) :: schema.named members) := by
    rw [← named_cons_of_some hslot]
    exact (Json.insertMember_perm habsent .null).filterMap _
  have hfresh : slot.name ∉ Json.keys (schema.named members) := by
    intro hmem
    obtain ⟨⟨_, v⟩, hmem, rfl⟩ := List.mem_map.mp hmem
    obtain ⟨entry, hentry, hnamed⟩ := List.mem_filterMap.mp hmem
    obtain ⟨other, hother, heq⟩ := Option.map_eq_some_iff.mp hnamed
    -- A slot with the same name is the same slot, and does not answer to any of the keys.
    have hsame : other = slot := List.inj_on_of_nodup_map hnames (List.mem_of_find?_eq_some hother)
      (List.mem_of_find?_eq_some hslot) (congrArg Prod.fst heq)
    have hanswers : other.answersTo entry.1 = true := by simpa using List.find?_some hother
    rw [hsame, hnew entry.1 (Json.key_mem_keys hentry)] at hanswers
    cases hanswers
  refine ⟨_, ofMembers_eq_ok_iff.mpr ⟨rfl, ?_, ?_⟩⟩
  · intro entry hentry found hfound
    obtain rfl | hentry := Json.mem_insertMember hentry
    · rw [Option.mem_def, hslot] at hfound
      cases hfound
      exact Kind.check_null hloose
    · exact hchecked entry hentry found hfound
  · exact (hperm.map Prod.fst).symm.nodup (List.nodup_cons.mpr ⟨hfresh, hnodup⟩)

theorem null_insertNull (hslot : schema.slot? key = some slot) (habsent : key ∉ Json.keys members) :
    schema.Null (Json.insertMember members key .null) [key] := by
  intro entry hentry hkey
  rw [List.mem_singleton] at hkey
  obtain rfl | hentry := Json.mem_insertMember hentry
  · exact ⟨by rw [knows, hslot, Option.isSome_some], rfl⟩
  · exact absurd (hkey ▸ Json.key_mem_keys hentry) habsent

theorem members_beside {α : Type} {build : Entries → Json.Members → α} (members : Json.Members) :
    (do let members ← schema.members (.object members)
        let e ← schema.ofMembers members
        return build e (schema.rest members)) = (schema.ofMembers members).map (build · (schema.rest members)) := by
  change schema.ofMembers members >>= _ = _
  cases schema.ofMembers members <;> rfl

/-- Null stands for an absent value in every record that is made up of the values of its slots and of the members
beside these. -/
theorem nullIsAbsent {α : Type} {ofJson : Json → Except Fault α} (build : Entries → Json.Members → α)
    (hnames : (schema.slots.map Slot.name).Nodup)
    (hofJson : ∀ members, ofJson (.object members) = (schema.ofMembers members).map (build · (schema.rest members)))
    (hbuild : ∀ e e' : Entries, (∀ name, e.value name = e'.value name) → build e = build e') :
    schema.NullIsAbsent ofJson := by
  have hwithout (members : Json.Members) (record : α) (gone : List String)
      (hread : ofJson (.object members) = .ok record) (hnull : schema.Null members gone) :
      ofJson (.object (Json.without members gone)) = .ok record := by
    rw [hofJson, Except.map_eq_ok] at hread ⊢
    obtain ⟨e, he, rfl⟩ := hread
    obtain ⟨fewer, hfewer, hvalue⟩ := ofMembers_without he hnull
    exact ⟨fewer, hfewer, by rw [rest_without hnull, hbuild fewer e hvalue]⟩
  refine ⟨hwithout, fun members record key slot hread hslot hloose hnew => ?_⟩
  have hanswers : slot.answersTo key = true := by simpa using List.find?_some hslot
  have habsent : key ∉ Json.keys members := by
    intro hkey
    rw [hnew key hkey] at hanswers
    cases hanswers
  obtain ⟨e, he, -⟩ := Except.map_eq_ok.mp ((hofJson members).symm.trans hread)
  obtain ⟨more, hmore⟩ := exists_ofMembers_insertNull hnames he hslot hloose hnew habsent
  obtain ⟨longer, hlonger⟩ : ∃ longer, ofJson (.object (Json.insertMember members key .null)) = .ok longer := by
    rw [hofJson, hmore]
    exact ⟨_, rfl⟩
  -- What is read with the null is read without it as well, and without it are the members themselves.
  have hshorter := hwithout _ longer [key] hlonger (null_insertNull hslot habsent)
  rw [Json.without_insertMember habsent, hread] at hshorter
  rw [hlonger, hshorter]

end Schema

/-- All that is read of a slot is its value. -/
theorem Entries.reads_congr {e e' : Entries} (hvalue : ∀ name, e.value name = e'.value name) :
    e.optInt = e'.optInt ∧ e.optFlag = e'.optFlag ∧ e.optText = e'.optText ∧ e.ints = e'.ints ∧ e.texts = e'.texts ∧
      e.items = e'.items ∧ e.object = e'.object := by
  refine ⟨?_, ?_, ?_, ?_, ?_, ?_, ?_⟩ <;> funext name
  · rw [optInt, optInt, hvalue]
  · rw [optFlag, optFlag, hvalue]
  · rw [optText, optText, hvalue]
  · rw [ints, ints, hvalue]
  · rw [texts, texts, hvalue]
  · rw [items, items, hvalue]
  · rw [object, object, hvalue]

end Wire

open Wire

theorem Heartbeat.nullIsAbsent : schema.NullIsAbsent ofJson := by
  refine Schema.nullIsAbsent (fun e _ => ofEntries e) (nodup_names _ (by simp)) (fun _ => rfl) fun e e' hvalue => ?_
  obtain ⟨hint, hflag, htext, -⟩ := Entries.reads_congr hvalue
  simp only [ofEntries, Entries.int, Entries.flag, Entries.text, hint, hflag, htext]

theorem Tag.nullIsAbsent : schema.NullIsAbsent ofJson := by
  refine Schema.nullIsAbsent (fun e _ => ofEntries e) (nodup_names _ (by simp)) (fun _ => rfl) fun e e' hvalue => ?_
  obtain ⟨hint, -, htext, -⟩ := Entries.reads_congr hvalue
  simp only [ofEntries, Entries.int, Entries.text, hint, htext]

theorem Info.nullIsAbsent : schema.NullIsAbsent ofJson := by
  refine Schema.nullIsAbsent (fun e _ => ofEntries e) (nodup_names _ (by simp)) (fun _ => rfl) fun e e' hvalue => ?_
  obtain ⟨-, -, htext, -⟩ := Entries.reads_congr hvalue
  simp only [ofEntries, htext]

theorem Settings.nullIsAbsent : schema.NullIsAbsent ofJson := by
  refine Schema.nullIsAbsent ofEntries (nodup_names _ (by simp)) Schema.members_beside fun e e' hvalue => ?_
  obtain ⟨hint, hflag, htext, hints, -⟩ := Entries.reads_congr hvalue
  funext extra
  simp only [ofEntries, hint, hflag, htext, hints]

theorem Monitor.nullIsAbsent : schema.NullIsAbsent ofJson := by
  refine Schema.nullIsAbsent ofEntries (nodup_names _ (by simp)) Schema.members_beside fun e e' hvalue => ?_
  obtain ⟨hint, hflag, htext, hints, htexts, hitems, hobject⟩ := Entries.reads_congr hvalue
  funext extra
  simp only [ofEntries, Entries.int, Entries.flag, Entries.text, hint, hflag, htext, hints, htexts, hitems, hobject]

/-- Null means that a value is absent, in every loosely typed field of every record that the server sends. An object
is read as the same record without the fields that are null in it, and with null for a field that it does not have. -/
theorem null_means_absent :
    Heartbeat.schema.NullIsAbsent Heartbeat.ofJson ∧ Tag.schema.NullIsAbsent Tag.ofJson ∧
      Info.schema.NullIsAbsent Info.ofJson ∧ Settings.schema.NullIsAbsent Settings.ofJson ∧
        Monitor.schema.NullIsAbsent Monitor.ofJson :=
  ⟨Heartbeat.nullIsAbsent, Tag.nullIsAbsent, Info.nullIsAbsent, Settings.nullIsAbsent, Monitor.nullIsAbsent⟩

/-- A heartbeat whose count is null under its other spelling, and a monitor that keeps a null of its own. -/
theorem null_count_is_absent :
    Heartbeat.ofJson (.object [("downCount", .null), ("id", .string "7")]) = .ok { id := 7 } ∧
      Heartbeat.ofJson (.object [("id", .string "7")]) = .ok { id := 7 } ∧
      Monitor.ofJson (.object [("zeta", .null)]) = .ok { extra := [("zeta", .null)] } ∧
      Monitor.ofJson (.object [("weight", .null), ("zeta", .null)]) = .ok { extra := [("zeta", .null)] } := by
  have hbeat : Heartbeat.ofJson (.object [("downCount", .null), ("id", .string "7")]) = .ok { id := 7 } := by rfl
  have hmonitor : Monitor.ofJson (.object [("zeta", .null)]) = .ok { extra := [("zeta", .null)] } := by rfl
  have hnull : Heartbeat.schema.Null [("downCount", .null), ("id", .string "7")] ["downCount"] :=
    List.forall_mem_cons.mpr ⟨fun _ => ⟨rfl, rfl⟩, List.forall_mem_singleton.mpr fun hgone => absurd hgone (by simp)⟩
  refine ⟨hbeat, null_means_absent.1.without _ _ ["downCount"] hbeat hnull, hmonitor, ?_⟩
  have hnew : ∀ other ∈ Json.keys [("zeta", .null)], (Slot.mk "weight" .int []).answersTo other = false := by
    simp [Json.keys, Slot.answersTo]
  exact null_means_absent.2.2.2.2.insertNull _ _ "weight" _ hmonitor (by rfl) rfl hnew

end UptimeSync
