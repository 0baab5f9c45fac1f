import UptimeSync.Proofs.Wire.Written
import UptimeSync.Record.Heartbeat
import UptimeSync.Record.Info
import UptimeSync.Record.Monitor
import UptimeSync.Record.Settings
import UptimeSync.Record.Tag

namespace UptimeSync

open Wire

/-- No record has two fields of one name. -/
theorem nodup_names :
    ∀ schema ∈ [Heartbeat.schema, Tag.schema, Info.schema, Settings.schema, Monitor.schema],
      (schema.slots.map Slot.name).Nodup := by
  simp [Heartbeat.schema, Tag.schema, Info.schema, Settings.schema, Monitor.schema]

namespace Heartbeat

theorem ofJson_toJson (b : Heartbeat) : ofJson b.toJson = .ok b := by
  refine Schema.read_written ⟨?_, by simp [Json.keys], .nil⟩ fun e hentries _ => ?_
  · simp only [List.forall_mem_cons, List.not_mem_nil, false_implies, implies_true,
      and_true]
    and_intros
    all_goals exact Schema.fits_of_check rfl (by simp [Kind.check, Except.map])
  · simp only [List.forall_mem_cons] at hentries
    simp [ofEntries, hentries, Entries.int, Entries.optInt, Entries.flag, Entries.optFlag, Entries.text,
      Entries.optText]

end Heartbeat

namespace Info

theorem ofJson_toJson (i : Info) : ofJson i.toJson = .ok i := by
  refine Schema.read_written ⟨?_, by simp [Json.keys], .nil⟩ fun e hentries _ => ?_
  · simp only [List.forall_mem_cons, List.not_mem_nil, false_implies, implies_true,
      and_true]
    and_intros
    all_goals exact Schema.fits_of_check rfl (by simp [Kind.check, Except.map])
  · simp only [List.forall_mem_cons] at hentries
    simp [ofEntries, hentries, Entries.optText]

end Info

namespace Tag

/-- The fields of a tag with their values. One without a value is not sent. -/
def fields (t : Tag) : List (String × Option Json) :=
  [("id", some (.ofInt64 t.id)), ("name", some (.string t.name)), ("color", some (.string t.color)),
   ("value", t.value.map .string)]

theorem toJson_eq (t : Tag) : t.toJson = .ofMembers (Json.present t.fields) := by
  obtain ⟨id, name, color, value⟩ := t
  cases value <;> rfl

theorem ofJson_toJson (t : Tag) : ofJson t.toJson = .ok t := by
  have hnodup : (t.fields.map Prod.fst).Nodup := by simp [fields]
  have hknown : ∀ key ∈ t.fields.map Prod.fst, schema.knows key = true := by
    change ∀ key ∈ ["id", "name", "color", "value"], _
    decide +kernel
  rw [toJson_eq]
  refine Schema.read_written (.ofFields ?_ hnodup .nil) fun e _ hvalue => ?_
  · simp only [fields, List.forall_mem_cons, List.not_mem_nil, false_implies, implies_true, and_true]
    and_intros
    all_goals exact Schema.fits_of_check_getD rfl (by simp [Kind.check, Except.map])
  · have hfields := Schema.value_present hnodup hknown hvalue
    simp only [fields, List.forall_mem_cons] at hfields
    simp [ofEntries, hfields, Entries.int, Entries.text, Entries.optInt, Entries.optText]

end Tag

namespace Settings

/-- The fields of the settings with their values. One without a value is not sent. -/
def fields (s : Settings) : List (String × Option Json) :=
  [("checkUpdate", s.checkUpdate.map .bool), ("checkBeta", s.checkBeta.map .bool),
   ("keepDataPeriodDays", s.keepDataPeriodDays.map .ofInt64),
   ("serverTimezone", s.serverTimezone.map .string), ("entryPage", s.entryPage.map .string),
   ("searchEngineIndex", s.searchEngineIndex.map .bool),
   ("primaryBaseURL", s.primaryBaseUrl.map .string), ("steamAPIKey", s.steamApiKey.map .string),
   ("dnsCache", s.dnsCache.map .bool),
   ("tlsExpiryNotifyDays", if s.tlsExpiryNotifyDays = [] then none
      else some (.array (s.tlsExpiryNotifyDays.map .ofInt64))),
   ("disableAuth", s.disableAuth.map .bool), ("trustProxy", s.trustProxy.map .bool)]

theorem optional_eq {α : Type} (key : String) (write : α → Json) (value : Option α) :
    optional key write value = (value.map write).toList.map (key, ·) := by
  cases value <;> rfl

theorem known_eq (s : Settings) : s.known = Json.present s.fields := by
  simp only [known, fields, optional_eq, Json.present_cons, Json.present_nil, List.append_assoc, List.append_nil]
  split <;> simp

theorem fields_names (s : Settings) : s.fields.map Prod.fst = schema.slots.map Slot.name := rfl

theorem nodup_fields (s : Settings) : (s.fields.map Prod.fst).Nodup := by
  rw [fields_names]
  exact nodup_names schema (by simp)

theorem names_known : ∀ key ∈ schema.slots.map Slot.name, schema.knows key = true := by
  decide +kernel

theorem writes_known (s : Settings) (hbeside : schema.Beside s.extra) : schema.Writes s.known s.extra := by
  rw [known_eq]
  refine .ofFields ?_ s.nodup_fields hbeside
  simp only [fields, List.forall_mem_cons, List.not_mem_nil, false_implies, implies_true, and_true]
  and_intros
  all_goals exact Schema.fits_of_check_getD rfl (by simp [Kind.check, Except.map])

/-- Settings that were read keep the members beside the known ones. -/
theorem extra_of_ofJson {v : Json} {s : Settings} (hread : ofJson v = .ok s) :
    ∃ members, v = .object members ∧ s.extra = schema.rest members := by
  obtain ⟨members, e, hv, rfl⟩ := Schema.read_beside hread
  exact ⟨members, hv, rfl⟩

theorem writes_of_ofJson {v : Json} {s : Settings} (hv : v.WellFormed) (hread : ofJson v = .ok s) :
    schema.Writes s.known s.extra := by
  obtain ⟨members, rfl, hextra⟩ := extra_of_ofJson hread
  refine s.writes_known ?_
  rw [hextra]
  exact Schema.rest_beside hv

theorem ofJson_toJson {s : Settings} (hwrites : schema.Writes s.known s.extra) : ofJson s.toJson = .ok s := by
  refine Schema.read_written_beside hwrites fun e _ hvalue => ?_
  rw [known_eq] at hvalue
  have hfields := Schema.value_present s.nodup_fields names_known hvalue
  simp only [fields, List.forall_mem_cons] at hfields
  simp [ofEntries, hfields, Entries.optInt, Entries.optFlag, Entries.optText, Entries.ints]

end Settings

namespace Monitor

@[simp] theorem checkObject_object (members : Json.Members) : checkObject (.object members) = .ok () := rfl

/-- The names of the fields that the server computes. -/
def computedNames : List String :=
  ["active", "childrenIds", "pathName", "maintenance", "forceInactive", "tags"]

/-- The names of the fields that are sent. -/
def sentNames : List String :=
  (schema.slots.map Slot.name).filter fun name => !computedNames.contains name

theorem keys_known (m : Monitor) : Json.keys m.known = sentNames := by
  rw [sentNames]
  simp [Json.keys, known, schema, computedNames]

theorem writes_known (m : Monitor) (hbeside : schema.Beside m.extra) : schema.Writes m.known m.extra := by
  refine ⟨?_, ?_, hbeside⟩
  · simp only [known, List.forall_mem_cons, List.not_mem_nil, false_implies, implies_true, and_true]
    and_intros
    all_goals exact Schema.fits_of_check rfl (by simp [Kind.check, Except.map])
  · rw [keys_known]
    exact (nodup_names schema (by simp)).filter _

/-- A monitor as it is sent: the fields that the server computes are left out. -/
def sent (m : Monitor) : Monitor :=
  { m with
    active := false
    childrenIds := []
    pathName := none
    maintenance := none
    forceInactive := none
    tags := [] }

theorem toJson_sent (m : Monitor) : m.sent.toJson = m.toJson := rfl

theorem computedNames_unsent : ∀ name ∈ computedNames, schema.knows name = true ∧ name ∉ sentNames := by
  decide +kernel

/-- A monitor that was read keeps the members beside the known ones. -/
theorem extra_of_ofJson {v : Json} {m : Monitor} (hread : ofJson v = .ok m) :
    ∃ members, v = .object members ∧ m.extra = schema.rest members := by
  obtain ⟨members, e, hv, rfl⟩ := Schema.read_beside hread
  exact ⟨members, hv, rfl⟩

theorem writes_of_ofJson {v : Json} {m : Monitor} (hv : v.WellFormed) (hread : ofJson v = .ok m) :
    schema.Writes m.known m.extra := by
  obtain ⟨members, rfl, hextra⟩ := extra_of_ofJson hread
  refine m.writes_known ?_
  rw [hextra]
  exact Schema.rest_beside hv

theorem ofJson_toJson {m : Monitor} (hwrites : schema.Writes m.known m.extra) :
    ofJson m.toJson = .ok m.sent := by
  refine Schema.read_written_beside hwrites fun e hentries hvalue => ?_
  have hcomputed : ∀ name ∈ computedNames, e.value name = .null := by
    intro name hname
    obtain ⟨hknown, hunsent⟩ := computedNames_unsent name hname
    rw [hvalue name hknown, Json.lookup_of_not_mem (m.keys_known ▸ hunsent), Option.getD_none]
  simp only [known, List.forall_mem_cons] at hentries
  simp only [computedNames, List.forall_mem_cons] at hcomputed
  simp [ofEntries, sent, hentries, hcomputed, Entries.int, Entries.optInt, Entries.flag, Entries.optFlag,
    Entries.text, Entries.optText, Entries.ints, Entries.texts, Entries.items, Entries.object]

end Monitor

/-- What is written of a record is read as the record. Of a monitor that was read the fields that the
server computes are lost at the first turn, and nothing at any later one. -/
theorem records_survive_the_wire :
    (∀ b : Heartbeat, Heartbeat.ofJson b.toJson = .ok b) ∧
    (∀ t : Tag, Tag.ofJson t.toJson = .ok t) ∧
    (∀ i : Info, Info.ofJson i.toJson = .ok i) ∧
    (∀ v s, v.WellFormed → Settings.ofJson v = .ok s → Settings.ofJson s.toJson = .ok s) ∧
    ∀ v m, v.WellFormed → Monitor.ofJson v = .ok m →
      Monitor.ofJson m.toJson = .ok m.sent ∧ Monitor.ofJson m.sent.toJson = .ok m.sent ∧
        m.sent.toJson = m.toJson := by
  refine ⟨Heartbeat.ofJson_toJson, Tag.ofJson_toJson, Info.ofJson_toJson, ?_, ?_⟩
  · intro v s hv hread
    exact Settings.ofJson_toJson (Settings.writes_of_ofJson hv hread)
  · intro v m hv hread
    have hwritten : Monitor.ofJson m.toJson = .ok m.sent :=
      Monitor.ofJson_toJson (Monitor.writes_of_ofJson hv hread)
    exact ⟨hwritten, hwritten, m.toJson_sent⟩

/-- A monitor with one computed field and one field that no version of the client knows. -/
theorem active_monitor_survives_the_wire :
    Monitor.ofJson ({ id := 3, name := "web", extra := [("zeta", .array [.null])] } : Monitor).toJson =
      .ok { id := 3, name := "web", extra := [("zeta", .array [.null])] } := by
  have hv : (Json.object [("active", .bool true), ("id", .ofInt64 3), ("name", .string "web"),
      ("zeta", .array [.null])]).WellFormed := by
    refine .object (by decide +kernel) ?_
    simp only [List.forall_mem_cons, List.not_mem_nil, false_implies, implies_true, and_true]
    exact ⟨.bool true, .integer _, .string "web", .array (by simpa using .null)⟩
  exact (records_survive_the_wire.2.2.2.2 _
    { id := 3, name := "web", active := true, extra := [("zeta", .array [.null])] } hv (by rfl)).1

end UptimeSync
