import UptimeSync.Proofs.Json.Lookup
import UptimeSync.Proofs.Record.Unmodelled

namespace UptimeSync

open Wire

namespace Settings

/-- The settings after some of them were saved: those that are sent replace the ones there were, and the
others stay. -/
def updatedBy (s saved : Settings) : Settings where
  checkUpdate := saved.checkUpdate.or s.checkUpdate
  checkBeta := saved.checkBeta.or s.checkBeta
  keepDataPeriodDays := saved.keepDataPeriodDays.or s.keepDataPeriodDays
  serverTimezone := saved.serverTimezone.or s.serverTimezone
  entryPage := saved.entryPage.or s.entryPage
  searchEngineIndex := saved.searchEngineIndex.or s.searchEngineIndex
  primaryBaseUrl := saved.primaryBaseUrl.or s.primaryBaseUrl
  steamApiKey := saved.steamApiKey.or s.steamApiKey
  dnsCache := saved.dnsCache.or s.dnsCache
  tlsExpiryNotifyDays :=
    if saved.tlsExpiryNotifyDays = [] then s.tlsExpiryNotifyDays else saved.tlsExpiryNotifyDays
  disableAuth := saved.disableAuth.or s.disableAuth
  trustProxy := saved.trustProxy.or s.trustProxy
  extra := Json.insertMembers s.extra saved.extra

/-- Holds of settings none of which is missing from others. -/
def Within (s saved : Settings) : Prop :=
  (∀ key ∈ Json.keys s.known, key ∈ Json.keys saved.known) ∧
    ∀ key ∈ Json.keys s.extra, key ∈ Json.keys saved.extra

instance (s saved : Settings) : Decidable (s.Within saved) :=
  inferInstanceAs (Decidable (_ ∧ _))

variable {s saved : Settings}

theorem lookup_known (s : Settings) : ∀ field ∈ s.fields, s.known.lookup field.1 = field.2 := by
  rintro ⟨key, value⟩ hfield
  rw [known_eq, Json.lookup_present s.nodup_fields hfield]

theorem keys_known_iff : (∀ key ∈ Json.keys s.known, key ∈ Json.keys saved.known) ↔
    ∀ field ∈ s.fields, field.2.isSome → (saved.known.lookup field.1).isSome := by
  constructor
  · intro hsub field hfield hset
    rw [← Json.mem_keys_iff]
    refine hsub field.1 (Json.mem_keys_iff.mpr ?_)
    rwa [s.lookup_known field hfield]
  · intro hset key hkey
    have hname : key ∈ s.fields.map Prod.fst := by
      rw [known_eq] at hkey
      exact (Json.keys_present s.fields).subset hkey
    obtain ⟨field, hfield, rfl⟩ := List.mem_map.mp hname
    rw [Json.mem_keys_iff, s.lookup_known field hfield] at hkey
    exact Json.mem_keys_iff.mpr (hset field hfield hkey)

theorem or_eq_left_iff {α : Type} {value old : Option α} :
    value.or old = value ↔ (old.isSome → value.isSome) := by
  cases value <;> cases old <;> simp

attribute [ext] Settings

/-- Saving settings leaves just these if no other ones were set. -/
theorem updatedBy_eq_iff (hextra : Json.Ascending s.extra) (hsaved : Json.Ascending saved.extra) :
    s.updatedBy saved = saved ↔ s.Within saved := by
  have hdays : (s.updatedBy saved).tlsExpiryNotifyDays = saved.tlsExpiryNotifyDays ↔
      (s.tlsExpiryNotifyDays ≠ [] → saved.tlsExpiryNotifyDays ≠ []) := by
    rw [updatedBy]
    split <;> simp_all
  have hknown := saved.lookup_known
  rw [Within, keys_known_iff, ← Json.insertMembers_eq_iff hextra hsaved, Settings.ext_iff, hdays]
  simp only [fields, List.forall_mem_cons, List.not_mem_nil, false_implies, implies_true, and_true] at hknown ⊢
  simp [updatedBy, or_eq_left_iff, hknown, and_assoc]

theorem lookup_known_updatedBy (s saved : Settings) (key : String) :
    (s.updatedBy saved).known.lookup key = (saved.known.lookup key).or (s.known.lookup key) := by
  have hfields : ∀ field ∈ (s.updatedBy saved).fields,
      field.2 = (saved.known.lookup field.1).or (s.known.lookup field.1) := by
    have hold := s.lookup_known
    have hnew := saved.lookup_known
    simp only [fields, List.forall_mem_cons, List.not_mem_nil, false_implies, implies_true, and_true]
      at hold hnew ⊢
    simp only [updatedBy, hold, hnew, Option.map_or, true_and, and_true]
    split <;> simp_all
  by_cases hname : key ∈ schema.names
  · rw [Schema.names, ← (s.updatedBy saved).fields_names] at hname
    obtain ⟨field, hfield, rfl⟩ := List.mem_map.mp hname
    rw [lookup_known _ field hfield, hfields field hfield]
  · have habsent (t : Settings) : t.known.lookup key = none :=
      Json.lookup_of_not_mem fun hkey => hname (t.known_modelled key hkey)
    simp only [habsent, Option.or_none]

theorem beside_updatedBy (hextra : schema.Beside s.extra) (hsaved : schema.Beside saved.extra) :
    schema.Beside (s.updatedBy saved).extra := by
  refine ⟨fun key hkey => ?_, hextra.ascending.insertMembers saved.extra⟩
  obtain ⟨entry, hentry, rfl⟩ := List.mem_map.mp hkey
  cases Json.mem_insertMembers hentry with
  | inl hold => exact hextra.unknown entry.1 (Json.key_mem_keys hold)
  | inr hnew => exact hsaved.unknown entry.1 (Json.key_mem_keys hnew)

/-- What is sent is found under its key. -/
theorem has_iff_lookup (hextra : schema.Beside s.extra) (entry : String × Json) :
    s.toJson.Has entry ↔ (s.known ++ s.extra).lookup entry.1 = some entry.2 := by
  have hsent := sentAs hextra
  rw [hsent.has_iff, ← List.mem_append, Json.mem_iff_lookup hsent.apart]

/-- After some settings were saved, exactly the entries that were sent are replaced. -/
theorem has_updatedBy (hextra : schema.Beside s.extra) (hsaved : schema.Beside saved.extra)
    (entry : String × Json) :
    (s.updatedBy saved).toJson.Has entry ↔
      saved.toJson.Has entry ∨ (∀ v, ¬ saved.toJson.Has (entry.1, v)) ∧ s.toJson.Has entry := by
  -- No name of a setting is the key of a member beside the settings, so that the two may be exchanged.
  have hapart : s.known.lookup entry.1 = none ∨ saved.extra.lookup entry.1 = none := by
    by_cases hname : entry.1 ∈ schema.names
    · refine .inr (Json.lookup_of_not_mem fun hkey => ?_)
      have hunknown := hsaved.unknown entry.1 hkey
      rw [names_known entry.1 hname] at hunknown
      cases hunknown
    · exact .inl (Json.lookup_of_not_mem fun hkey => hname (s.known_modelled entry.1 hkey))
  have hbeside : (s.updatedBy saved).extra.lookup entry.1 =
      (saved.extra.lookup entry.1).or (s.extra.lookup entry.1) :=
    Json.lookup_insertMembers_of_nodup hsaved.ascending.nodup_keys s.extra entry.1
  have hlookup : ((s.updatedBy saved).known ++ (s.updatedBy saved).extra).lookup entry.1 =
      ((saved.known ++ saved.extra).lookup entry.1).or ((s.known ++ s.extra).lookup entry.1) := by
    rw [List.lookup_append, lookup_known_updatedBy, hbeside, List.lookup_append, List.lookup_append]
    obtain hnone | hnone := hapart <;> simp [hnone, Option.or_assoc]
  simp only [has_iff_lookup (beside_updatedBy hextra hsaved), has_iff_lookup hsaved, has_iff_lookup hextra,
    hlookup]
  cases (saved.known ++ saved.extra).lookup entry.1 <;> simp

end Settings

namespace Monitor

/-- A monitor after it was edited: what the server computes of it stays. -/
def updatedBy (m edited : Monitor) : Monitor :=
  { edited with
    active := m.active
    childrenIds := m.childrenIds
    pathName := m.pathName
    maintenance := m.maintenance
    forceInactive := m.forceInactive
    tags := m.tags }

/-- The fields of a monitor that the server computes. -/
def computed (m : Monitor) :
    Bool × List Int64 × Option String × Option Bool × Option Bool × List Json :=
  (m.active, m.childrenIds, m.pathName, m.maintenance, m.forceInactive, m.tags)

attribute [ext] Monitor

variable {m edited : Monitor}

/-- What is sent of a monitor and what is computed make up the monitor. -/
theorem eq_of_sent_of_computed (hsent : m.sent = edited.sent) (hcomputed : m.computed = edited.computed) :
    m = edited := by
  rw [Monitor.ext_iff] at hsent ⊢
  simp only [sent, computed, Prod.mk.injEq] at hsent hcomputed
  simp only [hsent, hcomputed, and_self]

theorem eq_updatedBy_iff {result : Monitor} :
    result = m.updatedBy edited ↔ result.sent = edited.sent ∧ result.computed = m.computed := by
  constructor
  · rintro rfl
    exact ⟨rfl, rfl⟩
  · rintro ⟨hsent, hcomputed⟩
    exact eq_of_sent_of_computed hsent hcomputed

theorem eq_updatedBy_self_iff : edited = m.updatedBy edited ↔ edited.computed = m.computed := by
  rw [eq_updatedBy_iff]
  simp

end Monitor
end UptimeSync
