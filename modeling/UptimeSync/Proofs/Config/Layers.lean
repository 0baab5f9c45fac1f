import UptimeSync.Proofs.Config.Assign

namespace UptimeSync.Config

open Value

namespace Section

def connection : Section := ⟨"connection", ["host", "port", "secure"]⟩

def timeouts : Section := ⟨"timeouts", ["emit_timeout_ms", "await_timeout_ms", "poll_interval_ms"]⟩

def retention : Section := ⟨"retention", ["heartbeat_capacity", "important_heartbeat_capacity"]⟩

def credentials : Section := ⟨"credentials", ["username", "password", "token", "jwt"]⟩

end Section

/-- A setting of a configuration. -/
inductive Setting where
  | host
  | port
  | secure
  | emitMs
  | awaitMs
  | pollMs
  | heartbeats
  | importantHeartbeats
  | username
  | password
  | token
  | jwt

namespace Setting

def within : Setting → Section
  | host | port | secure => .connection
  | emitMs | awaitMs | pollMs => .timeouts
  | heartbeats | importantHeartbeats => .retention
  | username | password | token | jwt => .credentials

def field : Setting → String
  | host => "host"
  | port => "port"
  | secure => "secure"
  | emitMs => "emit_timeout_ms"
  | awaitMs => "await_timeout_ms"
  | pollMs => "poll_interval_ms"
  | heartbeats => "heartbeat_capacity"
  | importantHeartbeats => "important_heartbeat_capacity"
  | username => "username"
  | password => "password"
  | token => "token"
  | jwt => "jwt"

/-- The type of a setting. -/
def Kind : Setting → Type
  | host => String
  | port => UInt16
  | secure => Bool
  | emitMs | awaitMs | pollMs | heartbeats | importantHeartbeats => UInt64
  | username | password | token | jwt => Option String

/-- The setting that a value stands for. -/
def decode? : (setting : Setting) → Value → Option setting.Kind
  | host, v => v.toText?
  | port, v => (v.toUnsigned? UInt16.size).map .ofNat
  | secure, v => v.toFlag?
  | emitMs, v | awaitMs, v | pollMs, v | heartbeats, v | importantHeartbeats, v =>
    (v.toUnsigned? UInt64.size).map .ofNat
  | username, v | password, v | token, v | jwt, v => v.toOptText?

def of (c : Config) : (setting : Setting) → setting.Kind
  | host => c.connection.host
  | port => c.connection.port
  | secure => c.connection.secure
  | emitMs => c.timeouts.emitMs
  | awaitMs => c.timeouts.awaitMs
  | pollMs => c.timeouts.pollMs
  | heartbeats => c.retention.heartbeats
  | importantHeartbeats => c.retention.importantHeartbeats
  | username => c.credentials.username
  | password => c.credentials.password
  | token => c.credentials.token
  | jwt => c.credentials.jwt

/-- The name of the variable that sets a setting. -/
def variableName (setting : Setting) : String :=
  "UPTIME_KUMA__" ++ setting.within.name.toUpper ++ "__" ++ setting.field.toUpper

/-- A setting as a value states it for its field, or its default. -/
def read? (setting : Setting) (stated : Option Value) : Option setting.Kind :=
  stated.elim (some (of {} setting)) setting.decode?

theorem key?_variableName (setting : Setting) :
    (Environment.key? setting.variableName).map Path.ofKey =
      some [.key setting.within.name, .key setting.field] := by
  cases setting <;> decide +kernel

theorem decode?_of_isCompound {v : Value} (hcompound : v.isCompound = true) (setting : Setting) :
    setting.decode? v = none := by
  cases v with
  | list | table => cases setting <;> rfl
  | _ => cases hcompound

end Setting

namespace Value

variable {α β : Type}

theorem setting?_eq (entries : Entries) (name : String) (convert : Value → Option α) (default : α) :
    setting? entries name convert default = (entries.lookup name).elim (some default) convert := by
  rw [setting?]
  cases entries.lookup name <;> rfl

/-- A default is made into a setting in the same way as what is stated. -/
theorem elim_map_of_elim {stated : Option Value} {default a : α} {convert : Value → Option α}
    (hread : stated.elim (some default) convert = some a) (f : α → β) :
    stated.elim (some (f default)) (fun v => (convert v).map f) = some (f a) := by
  cases stated with
  | none =>
    cases hread
    rfl
  | some v =>
    have hconvert : convert v = some a := hread
    exact (congrArg (Option.map f) hconvert :)

end Value

namespace Section

/-- Holds of a section whose settings in a configuration are the ones stated for their fields, and have their
defaults where none is. -/
def Reads (part : Section) (c : Config) (stated? : String → Option Value) : Prop :=
  ∀ setting : Setting, setting.within = part → setting.read? (stated? setting.field) = some (setting.of c)

variable {part : Section} {c : Config} {v : Value}

/-- Reading a section that is missing is reading an empty one. -/
theorem reads_stated? {α : Type} {root : Value} {a default : α} {ofValue? : Value → Option α}
    (hread : setting? root.entries part.name ofValue? default = some a)
    (hempty : ofValue? (table []) = some default)
    (hfields : ∀ v, ofValue? v = some a →
      ∃ entries, v.fields? part.fields = some entries ∧ part.Reads c (entries.lookup ·)) :
    part.Reads c (root.stated? part) := by
  rw [setting?_eq] at hread
  have hsection : ∃ v, ofValue? v = some a ∧ ∀ entries, v.fields? part.fields = some entries →
      ∀ field, root.stated? part field = entries.lookup field := by
    cases hfound : root.entries.lookup part.name with
    | none =>
      rw [hfound] at hread
      refine ⟨table [], hempty.trans hread, fun entries hentries field => ?_⟩
      cases hentries
      simp [stated?, hfound]
    | some v =>
      rw [hfound] at hread
      refine ⟨v, hread, fun entries hentries field => ?_⟩
      simp [stated?, hfound, hentries]
  obtain ⟨v, hv, hstated⟩ := hsection
  obtain ⟨entries, hentries, hreads⟩ := hfields v hv
  intro setting hwithin
  rw [hstated entries hentries]
  exact hreads setting hwithin

theorem reads_connection (hread : Connection.ofValue? v = some c.connection) :
    ∃ entries, v.fields? connection.fields = some entries ∧ connection.Reads c (entries.lookup ·) := by
  obtain ⟨connection, timeouts, retention, credentials⟩ := c
  simp only [Connection.ofValue?, setting?_eq, Option.bind_eq_bind, Option.bind_eq_some_iff] at hread
  obtain ⟨entries, hentries, host, hhost, port, hport, secure, hsecure, hmade⟩ := hread
  cases hmade
  refine ⟨entries, hentries, fun setting hwithin => ?_⟩
  cases setting with
  | host => exact hhost
  | port => exact elim_map_of_elim hport UInt16.ofNat
  | secure => exact hsecure
  | _ => exact absurd hwithin (by decide)

theorem reads_timeouts (hread : Timeouts.ofValue? v = some c.timeouts) :
    ∃ entries, v.fields? timeouts.fields = some entries ∧ timeouts.Reads c (entries.lookup ·) := by
  obtain ⟨connection, timeouts, retention, credentials⟩ := c
  simp only [Timeouts.ofValue?, setting?_eq, Option.bind_eq_bind, Option.bind_eq_some_iff] at hread
  obtain ⟨entries, hentries, emit, hemit, await, hawait, poll, hpoll, hmade⟩ := hread
  cases hmade
  refine ⟨entries, hentries, fun setting hwithin => ?_⟩
  cases setting with
  | emitMs => exact elim_map_of_elim hemit UInt64.ofNat
  | awaitMs => exact elim_map_of_elim hawait UInt64.ofNat
  | pollMs => exact elim_map_of_elim hpoll UInt64.ofNat
  | _ => exact absurd hwithin (by decide)

theorem reads_retention (hread : Retention.ofValue? v = some c.retention) :
    ∃ entries, v.fields? retention.fields = some entries ∧ retention.Reads c (entries.lookup ·) := by
  obtain ⟨connection, timeouts, retention, credentials⟩ := c
  simp only [Retention.ofValue?, setting?_eq, Option.bind_eq_bind, Option.bind_eq_some_iff] at hread
  obtain ⟨entries, hentries, all, hall, important, himportant, hmade⟩ := hread
  cases hmade
  refine ⟨entries, hentries, fun setting hwithin => ?_⟩
  cases setting with
  | heartbeats => exact elim_map_of_elim hall UInt64.ofNat
  | importantHeartbeats => exact elim_map_of_elim himportant UInt64.ofNat
  | _ => exact absurd hwithin (by decide)

theorem reads_credentials (hread : Credentials.ofValue? v = some c.credentials) :
    ∃ entries, v.fields? credentials.fields = some entries ∧ credentials.Reads c (entries.lookup ·) := by
  obtain ⟨connection, timeouts, retention, credentials⟩ := c
  simp only [Credentials.ofValue?, setting?_eq, Option.bind_eq_bind, Option.bind_eq_some_iff] at hread
  obtain ⟨entries, hentries, username, husername, password, hpassword, token, htoken, jwt, hjwt,
    hmade⟩ := hread
  cases hmade
  refine ⟨entries, hentries, fun setting hwithin => ?_⟩
  cases setting with
  | username => exact husername
  | password => exact hpassword
  | token => exact htoken
  | jwt => exact hjwt
  | _ => exact absurd hwithin (by decide)

end Section

/-- Every setting of a configuration that a value states is the one stated for its field, or its default. -/
theorem read?_of_ofValue? {root : Value} {c : Config} (hread : ofValue? root = some c) (setting : Setting) :
    setting.read? (root.stated? setting.within setting.field) = some (setting.of c) := by
  simp only [ofValue?, Option.bind_eq_bind, Option.bind_eq_some_iff] at hread
  obtain ⟨connection, hconnection, timeouts, htimeouts, retention, hretention, credentials, hcredentials,
    hmade⟩ := hread
  cases hmade
  let c : Config := ⟨connection, timeouts, retention, credentials⟩
  have hconnection : Section.connection.Reads c (root.stated? .connection) :=
    Section.reads_stated? hconnection rfl fun _ hv => Section.reads_connection hv
  have htimeouts : Section.timeouts.Reads c (root.stated? .timeouts) :=
    Section.reads_stated? htimeouts rfl fun _ hv => Section.reads_timeouts hv
  have hretention : Section.retention.Reads c (root.stated? .retention) :=
    Section.reads_stated? hretention rfl fun _ hv => Section.reads_retention hv
  have hcredentials : Section.credentials.Reads c (root.stated? .credentials) :=
    Section.reads_stated? hcredentials rfl fun _ hv => Section.reads_credentials hv
  cases setting with
  | host | port | secure => exact hconnection _ rfl
  | emitMs | awaitMs | pollMs => exact htimeouts _ rfl
  | heartbeats | importantHeartbeats => exact hretention _ rfl
  | username | password | token | jwt => exact hcredentials _ rfl

theorem isCompound_environmentValue (text : String) : (Environment.value text).isCompound = false := by
  rw [Environment.value]
  repeat' split
  all_goals rfl

theorem isCompound_environment {environment : List (String × String)} {entry : String × Value}
    (hmem : entry ∈ Environment.entries environment) : entry.2.isCompound = false := by
  obtain ⟨⟨name, text⟩, -, hentry⟩ := List.mem_filterMap.mp hmem
  cases hempty : text.isEmpty with
  | true => simp [hempty] at hentry
  | false =>
    obtain ⟨key, -, rfl⟩ : ∃ key, Environment.key? name = some key ∧
        (key, Environment.value text) = entry := by
      simpa [hempty] using hentry
    exact isCompound_environmentValue text

/-- What a file, if one is given, amounts to by itself. -/
def fileRoot (file : Option File) : Except LoadFailure Value := do
  let entries ← (file.elim (.ok []) File.entries).mapError .error
  ((table []).overlay entries).mapError .badIndex

/-- What a file and the variables of an environment amount to. -/
def mergedRoot (file : Option File) (environment : List (String × String)) : Except LoadFailure Value := do
  let root ← fileRoot file
  (root.overlay (Environment.entries environment)).mapError .badIndex

/-- Loading is merging, then reading the settings, then checking them. -/
theorem load_eq (file : Option File) (environment : List (String × String)) :
    load file environment = do
      let merged ← mergedRoot file environment
      match ofValue? merged with
      | none => .error (.error (.unreadableConfig "a setting has a value of the wrong type"))
      | some config =>
        config.validate.mapError .error
        return config := by
  rw [load, mergedRoot, fileRoot, bind_assoc, bind_assoc]
  refine bind_congr fun entries => ?_
  rw [layered]
  cases (table []).overlay entries <;> rfl

section

variable {file : Option File} {environment : List (String × String)} {root merged : Value} {c : Config}

theorem ofValue?_of_load (hload : load file environment = .ok c) :
    ∃ root merged, fileRoot file = .ok root ∧ root.overlay (Environment.entries environment) = .ok merged ∧
      ofValue? merged = some c ∧ c.validate = .ok () := by
  rw [load_eq] at hload
  obtain ⟨merged, hmerged, hread⟩ := Except.bind_eq_ok.mp hload
  obtain ⟨root, hroot, hoverlay⟩ := Except.bind_eq_ok.mp hmerged
  refine ⟨root, merged, hroot, Except.mapError_eq_ok.mp hoverlay, ?_⟩
  cases hconfig : ofValue? merged with
  | none => simp [hconfig] at hread
  | some config =>
    rw [hconfig] at hread
    obtain ⟨_, hvalid, hsame⟩ := Except.bind_eq_ok.mp hread
    obtain rfl : config = c := Except.ok.inj hsame
    exact ⟨rfl, Except.mapError_eq_ok.mp hvalid⟩

/-- A field that a variable leads into is no setting any more, so that what is read of the outcome comes from
the variable for the setting or, where there is none, from what is below. -/
theorem read?_of_overlay (hoverlay : root.overlay (Environment.entries environment) = .ok merged)
    (hread : ofValue? merged = some c) {setting : Setting}
    (hlays : LaysFields (Environment.entries environment) setting.within root) :
    setting.read? ((assigned? (Environment.entries environment) setting.within setting.field).or
      (root.stated? setting.within setting.field)) = some (setting.of c) := by
  have hsetting := read?_of_ofValue? hread setting
  obtain hstated | ⟨w, hstated, hcompound⟩ :=
    stated?_overlay (fun _ => isCompound_environment) hlays hoverlay setting.field
  · rw [← hstated]
    exact hsetting
  · have hnone : setting.read? (some w) = none := setting.decode?_of_isCompound hcompound
    rw [hstated, hnone] at hsetting
    cases hsetting

/-- What can be read is loaded unless it breaks a rule. -/
theorem load_of_read (hmerged : mergedRoot file environment = .ok merged) (hread : ofValue? merged = some c) :
    load file environment =
      match c.violation? with
      | none => .ok c
      | some violation => .error (.error (.invalidConfig violation.message)) := by
  simp only [load_eq, hmerged, Except.bind, bind, hread, validate]
  cases c.violation? <;> rfl

end

/-- A configuration that is loaded keeps all rules, and each of its settings is what the last variable for it
says, or else what the file says, or else its default. So what sets one field of a section resets no other,
provided that the environment sets the section by its fields, and the file does not list them by their
positions then. An outcome of the layers that can be read is loaded unless it breaks a rule, which is then the
error. -/
theorem load_layers (file : Option File) (environment : List (String × String)) :
    let layer := Environment.entries environment
    (∀ c, load file environment = .ok c →
      c.validate = .ok () ∧
      ∃ root, fileRoot file = .ok root ∧
        ∀ setting : Setting, LaysFields layer setting.within root →
          setting.read? ((assigned? layer setting.within setting.field).or
            (root.stated? setting.within setting.field)) = some (setting.of c)) ∧
    (∀ merged config, mergedRoot file environment = .ok merged → ofValue? merged = some config →
      load file environment =
        match config.violation? with
        | none => .ok config
        | some violation => .error (.error (.invalidConfig violation.message))) ∧
    ∀ setting : Setting, (Environment.key? setting.variableName).map Path.ofKey =
      some [.key setting.within.name, .key setting.field] := by
  intro layer
  refine ⟨fun c hload => ?_, fun _ _ => load_of_read, Setting.key?_variableName⟩
  obtain ⟨root, merged, hroot, hoverlay, hread, hvalid⟩ := ofValue?_of_load hload
  exact ⟨hvalid, root, hroot, fun setting hlays => read?_of_overlay hoverlay hread hlays⟩

/-- A variable overrides one field of a section and leaves the others to the file, also if the outcome breaks
a rule. -/
theorem load_file_below_environment :
    let file := some (File.text "[connection]\nhost = \"status.example.com\"\nsecure = true")
    let environment :=
      [("UPTIME_KUMA__CONNECTION__PORT", "3002"), ("UPTIME_KUMA__RETENTION__HEARTBEAT_CAPACITY", "")]
    let c : Config := { connection := { host := "status.example.com", port := 3002, secure := true } }
    load file environment = .ok c ∧ c.validate = .ok () ∧
    (∃ root, fileRoot file = .ok root ∧ ∀ setting : Setting,
      setting.read? ((assigned? (Environment.entries environment) setting.within setting.field).or
        (root.stated? setting.within setting.field)) = some (setting.of c)) ∧
    load file [("UPTIME_KUMA__CONNECTION__PORT", "0")] =
      .error (.error (.invalidConfig "connection.port must be non-zero")) := by
  intro file environment c
  have hload : load file environment = .ok c := Except.toOption_eq_some.mp (by decide +kernel)
  have hlays : (fileRoot file).toOption.all (fun root =>
      [.connection, .timeouts, .retention, .credentials].all fun part =>
        decide (LaysFields (Environment.entries environment) part root)) = true := by
    decide +kernel
  have hbroken : ((mergedRoot file [("UPTIME_KUMA__CONNECTION__PORT", "0")]).toOption.bind ofValue?).bind
      violation? = some .zeroPort := by
    decide +kernel
  obtain ⟨hvalid, root, hroot, hsettings⟩ := (load_layers file environment).1 c hload
  refine ⟨hload, hvalid, ⟨root, hroot, fun setting => hsettings setting ?_⟩, ?_⟩
  · rw [hroot] at hlays
    simp only [Except.toOption_ok, Option.all_some, List.all_cons, List.all_nil, Bool.and_eq_true,
      decide_eq_true_eq] at hlays
    obtain ⟨hconnection, htimeouts, hretention, hcredentials, -⟩ := hlays
    cases setting <;> assumption
  · obtain ⟨config, hconfig, hviolation⟩ := Option.bind_eq_some_iff.mp hbroken
    obtain ⟨merged, hmerged, hread⟩ := Option.bind_eq_some_iff.mp hconfig
    have hrefused := (load_layers file _).2.1 merged config (Except.toOption_eq_some.mp hmerged) hread
    rw [hviolation] at hrefused
    exact hrefused

/-- A file may list the fields of a section by their positions, but a variable for one of them then takes the
place of the whole list, and the others get their defaults. -/
theorem load_resets_listed_fields :
    let file := some (File.text "connection = [\"status.example.com\", 4000, false]")
    load file [] = .ok { connection := { host := "status.example.com", port := 4000 } } ∧
      load file [("UPTIME_KUMA__CONNECTION__SECURE", "true")] = .ok { connection := { secure := true } } := by
  intro file
  exact ⟨Except.toOption_eq_some.mp (by decide +kernel), Except.toOption_eq_some.mp (by decide +kernel)⟩

end UptimeSync.Config
