import UptimeSync.Proofs.Action.Ending
import UptimeSync.Proofs.Record.RoundTrip

namespace UptimeSync

/-- Holds of an object with a member. -/
def Json.Has (v : Json) (entry : String × Json) : Prop :=
  ∃ members, v = .object members ∧ entry ∈ members

namespace Wire.Schema

variable {schema : Schema} {received known extra : Json.Members}

def names (schema : Schema) : List String :=
  schema.slots.map Slot.name

/-- The members of an object under other keys than the names of the slots. -/
def unmodelled (schema : Schema) (received : Json.Members) : Json.Members :=
  received.filter fun entry => !schema.names.contains entry.1

theorem mem_unmodelled {entry : String × Json} :
    entry ∈ schema.unmodelled received ↔ entry ∈ received ∧ entry.1 ∉ schema.names := by
  simp [unmodelled]

theorem rest_eq_unmodelled (hplain : ∀ slot ∈ schema.slots, slot.aliases = []) (received : Json.Members) :
    schema.rest received = schema.unmodelled received := by
  refine List.filter_congr fun entry _ => congrArg (!·) ?_
  rw [Bool.eq_iff_iff, knows_iff hplain, List.contains_iff_mem, names]

/-- Holds of what a record is sent as: its fields, under names of slots, and the members that it keeps
beside them, all under different keys, and nothing else. -/
structure SentAs (schema : Schema) (known extra : Json.Members) (sent : Json) : Prop where
  has_iff : ∀ entry, sent.Has entry ↔ entry ∈ known ∨ entry ∈ extra
  modelled : ∀ key ∈ Json.keys known, key ∈ schema.names
  apart : (Json.keys (known ++ extra)).Nodup

theorem Writes.sentAs (hwrites : schema.Writes known extra)
    (hmodelled : ∀ key ∈ Json.keys known, key ∈ schema.names) :
    schema.SentAs known extra (.ofMembers (known ++ extra)) := by
  refine ⟨fun entry => ?_, hmodelled, hwrites.nodup_keys⟩
  have hperm := Json.written_perm hwrites.nodup_keys
  rw [← List.mem_append, ← hperm.mem_iff]
  constructor
  · rintro ⟨members, heq, hentry⟩
    cases heq
    exact hentry
  · intro hentry
    exact ⟨_, rfl, hentry⟩

end Wire.Schema

open Wire

namespace Monitor

theorem schema_plain : ∀ slot ∈ schema.slots, slot.aliases = [] := by
  simp [schema]

theorem extra_eq {received : Json.Members} {m : Monitor} (hread : ofJson (.object received) = .ok m) :
    m.extra = schema.unmodelled received := by
  obtain ⟨members, heq, hextra⟩ := extra_of_ofJson hread
  cases heq
  rw [hextra, Schema.rest_eq_unmodelled schema_plain]

theorem known_modelled (m : Monitor) : ∀ key ∈ Json.keys m.known, key ∈ schema.names := by
  rw [keys_known]
  exact fun key hkey => (List.mem_filter.mp hkey).1

theorem sentAs {m : Monitor} (hbeside : schema.Beside m.extra) : schema.SentAs m.known m.extra m.toJson :=
  (m.writes_known hbeside).sentAs m.known_modelled

/-- What the server computes is not sent, neither as a field nor beside the fields. -/
theorem computed_unsent {m : Monitor} (hbeside : schema.Beside m.extra) {entry : String × Json}
    (hcomputed : entry.1 ∈ computedNames) : ¬ m.toJson.Has entry := by
  obtain ⟨hknown, hunsent⟩ := computedNames_unsent entry.1 hcomputed
  rw [(sentAs hbeside).has_iff, not_or]
  constructor
  · intro hentry
    exact hunsent (m.keys_known ▸ Json.key_mem_keys hentry)
  · intro hentry
    have hunknown := hbeside.unknown entry.1 (Json.key_mem_keys hentry)
    rw [hknown] at hunknown
    cases hunknown

end Monitor

namespace Settings

theorem extra_eq {received : Json.Members} {s : Settings} (hread : ofJson (.object received) = .ok s) :
    s.extra = schema.unmodelled received := by
  obtain ⟨members, heq, hextra⟩ := extra_of_ofJson hread
  cases heq
  rw [hextra, Schema.rest_eq_unmodelled (by simp [schema])]

theorem known_modelled (s : Settings) : ∀ key ∈ Json.keys s.known, key ∈ schema.names := by
  intro key hkey
  rw [known_eq] at hkey
  exact (Json.keys_present s.fields).subset hkey

theorem sentAs {s : Settings} (hbeside : schema.Beside s.extra) : schema.SentAs s.known s.extra s.toJson :=
  (s.writes_known hbeside).sentAs s.known_modelled

end Settings

/-- A record that was read from an object keeps the members of the object that it has no fields for, and
whatever becomes of its fields, they are all in what is sent when it is saved. -/
theorem unmodelled_fields_kept {received : Json.Members} (hreceived : (Json.object received).WellFormed)
    {σ : Type} (e : Emitter σ) (store : Store) (x : σ) :
    (∀ m, Monitor.ofJson (.object received) = .ok m →
      m.extra = Monitor.schema.unmodelled received ∧
      Monitor.schema.SentAs m.known m.extra m.toJson ∧
      (∀ entry, entry.1 ∈ Monitor.computedNames → ¬ m.toJson.Has entry) ∧
      ∀ edited : Monitor, edited.extra = m.extra → ∀ action args answer,
        .emitted action args answer ∈
          ((Action.editMonitor edited).program.carriedOut e ⟨store, x, []⟩).2.steps →
        action = "editMonitor" ∧ ∃ sent, args = [sent] ∧
          ∀ entry ∈ received, entry.1 ∉ Monitor.schema.names → sent.Has entry) ∧
    ∀ s, Settings.ofJson (.object received) = .ok s →
      s.extra = Settings.schema.unmodelled received ∧
      Settings.schema.SentAs s.known s.extra s.toJson ∧
      ∀ edited : Settings, edited.extra = s.extra → ∀ password action args answer,
        .emitted action args answer ∈
          ((Action.setSettings edited password).program.carriedOut e ⟨store, x, []⟩).2.steps →
        action = "setSettings" ∧ ∃ sent, args = [sent, .string password] ∧
          ∀ entry ∈ received, entry.1 ∉ Settings.schema.names → sent.Has entry := by
  constructor
  · intro m hread
    have hextra : m.extra = Monitor.schema.unmodelled received := Monitor.extra_eq hread
    have hbeside : Monitor.schema.Beside m.extra := (Monitor.writes_of_ofJson hreceived hread).beside
    refine ⟨hextra, Monitor.sentAs hbeside, fun entry => Monitor.computed_unsent hbeside, ?_⟩
    intro edited hsame action args answer hmem
    obtain ⟨rfl, rfl⟩ := ((Action.editMonitor edited).ends e store x).emitted hmem
    refine ⟨rfl, edited.toJson, rfl, fun entry hentry hname => ?_⟩
    rw [(Monitor.sentAs (hsame ▸ hbeside)).has_iff, hsame, hextra]
    exact .inr (Schema.mem_unmodelled.mpr ⟨hentry, hname⟩)
  · intro s hread
    have hextra : s.extra = Settings.schema.unmodelled received := Settings.extra_eq hread
    have hbeside : Settings.schema.Beside s.extra := (Settings.writes_of_ofJson hreceived hread).beside
    refine ⟨hextra, Settings.sentAs hbeside, ?_⟩
    intro edited hsame password action args answer hmem
    obtain ⟨rfl, rfl⟩ := ((Action.setSettings edited password).ends e store x).emitted hmem
    refine ⟨rfl, edited.toJson, rfl, fun entry hentry hname => ?_⟩
    rw [(Settings.sentAs (hsame ▸ hbeside)).has_iff, hsame, hextra]
    exact .inr (Schema.mem_unmodelled.mpr ⟨hentry, hname⟩)

/-- The settings are saved with the one member that is no setting. -/
theorem unknown_setting_is_sent :
    ∃ sent, Action.args (.setSettings { extra := [("zeta", .null)] } "pw") = [sent, .string "pw"] ∧
      sent.Has ("zeta", .null) := by
  have hreceived : (Json.object [("zeta", .null)]).WellFormed :=
    .object (by decide) (by simpa using .null)
  have hread : Settings.ofJson (.object [("zeta", .null)]) = .ok { extra := [("zeta", .null)] } := by rfl
  have hsent := ((unmodelled_fields_kept hreceived (.acknowledging .null) (.empty {}) ()).2 _ hread).2.2
  obtain ⟨-, sent, hargs, hall⟩ := hsent { extra := [("zeta", .null)] } rfl "pw" _ _ _
    (List.mem_cons_of_mem _ List.mem_cons_self)
  exact ⟨sent, hargs, hall ("zeta", .null) List.mem_cons_self (by decide +kernel)⟩

end UptimeSync
