import UptimeSync.Proofs.Action.Acknowledged
import UptimeSync.Proofs.Action.Discipline
import UptimeSync.Proofs.Record.Update

namespace UptimeSync

variable {σ : Type}

/-- The acknowledgement of a server that has nothing to say but that a request was carried out. -/
def Reply.plain : Json := .array [.object [("ok", .bool true)]]

namespace Action

open Course

variable {a : Action} {e : Emitter σ} {c : Store.Contents} {x : σ} {raw : Json}

/-- Of an action of the common kind, an acknowledgement that it accepts gets as far as its own fields. -/
theorem judge_of_accepts (hjudge : a.judge = fun raw => a.reply raw >>= Reply.accepted a.name >>= a.settle)
    (haccepted : a.Accepts raw) : ∃ body, a.judge raw = a.settle body := by
  obtain ⟨reply, hreply, hok, -⟩ := haccepted
  have happroved : reply.accepted a.name = .ok reply.body := by rw [Reply.accepted, if_pos hok]
  refine ⟨reply.body, ?_⟩
  rw [hjudge]
  simp only [hreply, bind, Except.bind, happroved]

/-- Settings that the server has saved become the cached ones as they were sent. What was cached before is lost
but for what was sent as well, so that the cache agrees with the server, where just the entries that were sent are
replaced, just if nothing else was cached. -/
theorem saved_settings_replace_cache {settings saved : Settings} {password : String}
    (hcached : c.settings = .value settings) (hextra : Json.Ascending settings.extra)
    (hsaved : Settings.schema.Beside saved.extra)
    (hacknowledged : e.Acknowledges (setSettings saved password) ⟨some c⟩ x raw)
    (haccepted : (setSettings saved password).Accepts raw) :
    let run := (setSettings saved password).program.carriedOut e ⟨⟨some c⟩, x, []⟩
    run.1 = .ok .nothing ∧
    run.2.steps = [.awaited .connect (.ok ()),
      .emitted "setSettings" [saved.toJson, .string password] (.ok raw), .accessed] ∧
    (Settings.schema.Beside settings.extra → ∀ entry,
      (settings.updatedBy saved).toJson.Has entry ↔
        saved.toJson.Has entry ∨ (∀ v, ¬ saved.toJson.Has (entry.1, v)) ∧ settings.toJson.Has entry) ∧
    ∃ after, run.2.store = ⟨some after⟩ ∧ after = { c with settings := .value saved } ∧
      (after = { c with settings := c.settings.map (·.updatedBy saved) } ↔ settings.Within saved) := by
  obtain ⟨body, hjudge⟩ := judge_of_accepts rfl haccepted
  obtain ⟨hresult, hstore, hsteps⟩ := carriedOut_of_judge rfl rfl hacknowledged hjudge
  refine ⟨hresult, hsteps, fun hbeside => Settings.has_updatedBy hbeside hsaved, _, hstore, rfl, ?_⟩
  rw [← Settings.updatedBy_eq_iff hextra hsaved.ascending, hcached]
  simp [Change.applyAll, Change.apply, Received.map, eq_comm]

/-- The one setting that was cached is saved together with another one. -/
theorem saved_settings_cover_cache :
    ∃ after, ((setSettings { checkUpdate := some false, dnsCache := some true } "pw").program.carriedOut
        (.acknowledging Reply.plain) ⟨⟨some { settings := .value { checkUpdate := some true } }⟩, (), []⟩).2.store =
          ⟨some after⟩ ∧
      after.settings = .value { checkUpdate := some false, dnsCache := some true } ∧
      after.settings = .value (Settings.updatedBy { checkUpdate := some true }
        { checkUpdate := some false, dnsCache := some true }) := by
  have hacknowledged := Emitter.acknowledging_acknowledges
    (setSettings { checkUpdate := some false, dnsCache := some true } "pw")
    ⟨some { settings := .value { checkUpdate := some true } }⟩ Reply.plain
  have hextra : Settings.schema.Beside [] := .nil
  obtain ⟨-, -, -, after, hstore, rfl, hagrees⟩ := saved_settings_replace_cache rfl
    (by exact hextra.ascending) (by exact hextra) hacknowledged ⟨⟨true, none, ⟨[]⟩⟩, rfl, rfl, trivial⟩
  refine ⟨_, hstore, rfl, congrArg Store.Contents.settings (hagrees.mpr ?_)⟩
  decide +kernel

/-- Of two cached settings only the one that is saved anew is left, though the server still has both. -/
theorem saving_drops_unsent_setting :
    ∃ after, ((setSettings { keepDataPeriodDays := some 30 } "pw").program.carriedOut
        (.acknowledging Reply.plain)
        ⟨⟨some { settings := .value { checkUpdate := some true, keepDataPeriodDays := some 180 } }⟩, (),
          []⟩).2.store = ⟨some after⟩ ∧
      after.settings = .value { keepDataPeriodDays := some 30 } ∧
      after.settings ≠ .value (Settings.updatedBy
        { checkUpdate := some true, keepDataPeriodDays := some 180 } { keepDataPeriodDays := some 30 }) := by
  refine ⟨_, rfl, rfl, fun heq => ?_⟩
  have hflag := congrArg Settings.checkUpdate (Received.value.inj heq)
  cases hflag

/-- An edited monitor becomes the cached one as it is, also in the fields that are not sent. The other monitors
stay. The cache agrees with the server just if the edited monitor had the computed fields of the cached one. -/
theorem edited_monitor_replaces_cache {cached m : Monitor} (hcached : c.monitors.find? m.id = some cached)
    (hvalid : m.validate = .ok ()) (hacknowledged : e.Acknowledges (editMonitor m) ⟨some c⟩ x raw)
    (haccepted : (editMonitor m).Accepts raw) :
    let run := (editMonitor m).program.carriedOut e ⟨⟨some c⟩, x, []⟩
    run.1 = .ok .nothing ∧
    run.2.steps = [.awaited .connect (.ok ()), .emitted "editMonitor" [m.sent.toJson] (.ok raw), .accessed] ∧
    ∃ after entry, run.2.store = ⟨some after⟩ ∧ after = { c with monitors := after.monitors } ∧
      (∀ other, m.id ≠ other → after.monitors.find? other = c.monitors.find? other) ∧
      after.monitors.find? m.id = some entry ∧ entry.sent = m.sent ∧ entry.computed = m.computed ∧
      ((c.monitors.find? m.id).map (·.updatedBy m) = some entry ↔ m.computed = cached.computed) := by
  obtain ⟨body, hjudge⟩ := judge_of_accepts rfl haccepted
  obtain ⟨hresult, hstore, hsteps⟩ := carriedOut_of_judge (a := editMonitor m) hvalid rfl hacknowledged hjudge
  have hentry (other : Int64) := Received.find?_insert c.monitors m.id other m
  refine ⟨hresult, hsteps, _, m, hstore, rfl, fun other hother => ?_, ?_, rfl, rfl, ?_⟩
  · exact (hentry other).trans (if_neg hother)
  · exact (hentry m.id).trans (if_pos rfl)
  · rw [hcached, ← Monitor.eq_updatedBy_self_iff]
    simp [eq_comm]

/-- The table of an active monitor. -/
def activeMonitors : IdMap Monitor :=
  (∅ : IdMap Monitor).insert 3 { id := 3, name := "api", active := true }

/-- A monitor that was taken from the cache is edited, so that it is still active afterwards. -/
theorem edited_monitor_stays_active :
    ∃ after entry, ((editMonitor { id := 3, name := "db", type := "push", interval := 30, active := true }
        ).program.carriedOut (.acknowledging Reply.plain)
        ⟨⟨some { monitors := .value activeMonitors }⟩, (), []⟩).2.store = ⟨some after⟩ ∧
      after.monitors.find? 3 = some entry ∧ entry.name = "db" ∧ entry.active = true := by
  have hacknowledged := Emitter.acknowledging_acknowledges
    (editMonitor { id := 3, name := "db", type := "push", interval := 30, active := true })
    ⟨some { monitors := .value activeMonitors }⟩ Reply.plain
  obtain ⟨-, -, after, entry, hstore, -, -, hentry, hsent, -, hagrees⟩ :=
    edited_monitor_replaces_cache rfl rfl hacknowledged ⟨⟨true, none, ⟨[]⟩⟩, rfl, rfl, trivial⟩
  exact ⟨after, entry, hstore, hentry, congrArg Monitor.name hsent,
    congrArg Monitor.active (Option.some.inj (hagrees.mpr rfl)).symm⟩

/-- Of a monitor that is edited under its identifier alone, the client takes it that it is paused, though the
server was not asked to pause it. -/
theorem editing_pauses_active_monitor :
    ∃ after entry, ((editMonitor { id := 3, name := "db", type := "push", interval := 30 }
        ).program.carriedOut (.acknowledging Reply.plain)
        ⟨⟨some { monitors := .value activeMonitors }⟩, (), []⟩).2.store = ⟨some after⟩ ∧
      after.monitors.find? 3 = some entry ∧ entry.active = false ∧
      activeMonitors[(3 : Int64)]?.map Monitor.active = some true :=
  ⟨_, _, rfl, rfl, rfl, rfl⟩

end Action
end UptimeSync
