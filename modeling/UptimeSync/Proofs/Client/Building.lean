import UptimeSync.Proofs.Client.Built
import UptimeSync.Proofs.Client.Replay
import UptimeSync.Proofs.Config.Rules
import UptimeSync.Proofs.History.Step
import UptimeSync.Proofs.Run.Closed

namespace UptimeSync

/-- Holds of a store to which nothing has come yet: no event has occurred, and all that is known is that the
session is not logged in and that there are no tags. -/
structure Store.Fresh (s : Store) : Prop where
  unoccurred (kind : EventKind) : kind.occurred s = false
  unseen (name : String) : s.hasSeen name = false
  loggedIn : s.loggedIn = .ok false
  tags : s.tags = .ok []
  connected : s.connected = .error .notSetYet
  autoLogin : s.autoLogin = .error .notSetYet
  info : s.info = .error .notSetYet
  settings : s.settings = .error .notSetYet
  monitors : s.monitors = .error .notSetYet
  heartbeats (monitorId : Int64) : s.heartbeats monitorId = .error .notSetYet
  importantHeartbeats (monitorId : Int64) : s.importantHeartbeats monitorId = .error .notSetYet

theorem Store.fresh_empty (retention : Retention) : (Store.empty retention).Fresh where
  unoccurred kind := by cases kind <;> rfl
  unseen name := rfl
  loggedIn := rfl
  tags := rfl
  connected := rfl
  autoLogin := rfl
  info := rfl
  settings := rfl
  monitors := rfl
  heartbeats _ := rfl
  importantHeartbeats _ := rfl

/-- Holds of a store that is closed or trims its buffers to some capacities. -/
inductive Store.Retains (retention : Retention) : Store → Prop where
  | closed : Retains retention .detached
  | opened {c : Store.Contents} (hcapacities : c.retention = retention) : Retains retention ⟨some c⟩

theorem StoreWrite.retention_apply (write : StoreWrite) (c : Store.Contents) :
    (write.apply c).retention = c.retention := by
  cases write with
  | history write => rw [apply, write.apply_frame]
  | _ => rfl

theorem StoreWrite.retention_applyAll (writes : List StoreWrite) (c : Store.Contents) :
    (applyAll writes c).retention = c.retention := by
  induction writes generalizing c with
  | nil => rfl
  | cons write rest ih =>
    have hrest : (applyAll rest (write.apply c)).retention = (write.apply c).retention := ih _
    exact hrest.trans (write.retention_apply c)

/-- The heartbeats of a monitor that are answered, or none. -/
theorem Shelf.getD_read_open (shelf : Shelf) (c : Store.Contents) (monitorId : Int64) :
    (shelf.read ⟨some c⟩ monitorId).toOption.getD [] = (shelf.buffer? c monitorId).getD [] := by
  rw [shelf.read_open]
  cases hset : (shelf.buffers c).isSet with
  | true => cases shelf.buffer? c monitorId <;> rfl
  | false =>
    have habsent : shelf.buffers c = .notYet := by
      cases hbuffers : shelf.buffers c with
      | notYet => rfl
      | value => simp [hbuffers, Received.isSet] at hset
    simp [Shelf.buffer?, habsent, Except.toOption]

/-- A live heartbeat goes behind the ones of its monitor, after which they are trimmed. -/
theorem Shelf.read_append (beat : Heartbeat) (c : Store.Contents) :
    let shelf := Shelf.ofBeat beat
    shelf.read ⟨some ((HeartbeatWrite.append beat).apply c)⟩ beat.monitorId =
      .ok (((shelf.read ⟨some c⟩ beat.monitorId).toOption.getD [] ++ [beat]).rtake
        (shelf.capacity c.retention)) := by
  intro shelf
  obtain ⟨after, hwritten, -, hshelves⟩ := (HeartbeatWrite.append beat).step c
  rw [HeartbeatWrite.access_eq_write, Access.on_write_open] at hwritten
  cases hwritten
  obtain ⟨hset, hbuffers⟩ := hshelves shelf
  have hreaches : (HeartbeatWrite.append beat).reaches shelf = true := by
    simp [HeartbeatWrite.reaches, shelf]
  have hdelivery : (HeartbeatWrite.append beat).delivery? shelf beat.monitorId = some (.batch [beat]) := by
    simp [HeartbeatWrite.delivery?, shelf]
  have hbuffer := hbuffers beat.monitorId
  rw [hdelivery] at hbuffer
  rw [shelf.getD_read_open, shelf.read_open, hset, hreaches, Bool.or_true, if_pos rfl, hbuffer]
  rfl

namespace Store

variable {retention : Retention} {s : Store}

theorem Retains.on (hretains : s.Retains retention) (use : StoreUse) : (use.on s).Retains retention := by
  cases hretains with
  | closed =>
    rw [use.on_detached]
    exact .closed
  | @opened c hcapacities =>
    cases use with
    | close => exact .closed
    | operation op =>
      rw [StoreUse.on, op.on_open]
      exact .opened ((StoreWrite.retention_applyAll _ c).trans hcapacities)

/-- Whatever is done with a store, its capacities stay. -/
theorem Retains.through (hretains : s.Retains retention) (uses : List StoreUse) :
    (s.through uses).Retains retention := by
  induction uses generalizing s with
  | nil => exact hretains
  | cons use rest ih => exact ih (hretains.on use)

/-- Holds of a store in which a live heartbeat that is taken in is the newest one of its monitor, behind as many
of the earlier ones as there is room for. -/
def KeepsNewest (retention : Retention) (s : Store) : Prop :=
  ∀ args, ((EventKind.heartbeat.handle args).on s).1 = .ok () → ∃ beat,
    EventKind.heartbeat.payload (Wire.readValue Heartbeat.ofJson ∘ Json.object) args = .ok beat ∧
    let shelf := Shelf.ofBeat beat
    let earlier := (shelf.read s beat.monitorId).toOption.getD []
    let kept := (earlier ++ [beat]).rtake (shelf.capacity retention)
    shelf.read ((EventKind.heartbeat.handle args).on s).2 beat.monitorId = .ok kept ∧
      kept.getLast? = some beat

theorem capacity_pos (hheartbeats : retention.heartbeats ≠ 0) (himportant : retention.importantHeartbeats ≠ 0)
    (shelf : Shelf) : 0 < shelf.capacity retention := by
  have hpos {n : UInt64} (hn : n ≠ 0) : 0 < n.toNat := by
    have hne : n.toNat ≠ 0 := fun hzero => hn (UInt64.toNat_inj.mp hzero)
    omega
  cases shelf with
  | general => exact hpos hheartbeats
  | important => exact hpos himportant

theorem Retains.keepsNewest (hretains : s.Retains retention) (hheartbeats : retention.heartbeats ≠ 0)
    (himportant : retention.importantHeartbeats ≠ 0) : s.KeepsNewest retention := by
  intro args hhandled
  cases hretains with
  | closed =>
    obtain ⟨result, hresult, e, rfl⟩ := EventKind.heartbeat.handle_detached args
    rw [hresult] at hhandled
    cases hhandled
  | @opened c hcapacities =>
    rw [EventKind.handle_open] at hhandled ⊢
    cases hwrites : EventKind.heartbeat.writes args with
    | error e =>
      rw [hwrites] at hhandled
      cases hhandled
    | ok writes =>
      obtain ⟨beat, hbeat, hwritten⟩ := Except.bind_eq_ok.mp hwrites
      cases hwritten
      refine ⟨beat, hbeat, ?_⟩
      have hread := Shelf.read_append beat c
      rw [hcapacities] at hread
      refine ⟨hread, ?_⟩
      obtain ⟨room, hroom⟩ := Nat.exists_eq_succ_of_ne_zero
        (capacity_pos hheartbeats himportant (Shelf.ofBeat beat)).ne'
      rw [hroom, List.rtake_concat_succ, List.getLast?_concat]

end Store

namespace Builder

variable {τ : Type}

/-- All the ways in which a client can be built from a configuration over a connection that takes and refuses
subscribers as it likes. -/
inductive Outcome (on : String → Subscriber → StateM τ (Except Error Unit)) (c : Config) (t : τ) :
    Except Error Client × τ → Prop where
  /-- A rule is broken, and the connection is left alone. -/
  | rejected {v : Config.Violation} (hbroken : c.Breaks v) :
      Outcome on c t (.error (.invalidConfig v.message), t)
  /-- A handler is refused. The ones before it stay registered, and the ones behind it are not tried. -/
  | refused {accepted rest : List EventKind} {kind : EventKind} {before after : τ} {e : Error}
      (hlawful : ∀ v, ¬ c.Breaks v) (hkinds : EventKind.all = accepted ++ kind :: rest)
      (haccepted : Subscribed on t accepted before)
      (hrefused : (on kind.name (.handler kind)).run before = (.error e, after)) :
      Outcome on c t (.error e, after)
  | built {client : Client} {after : τ} (hlawful : ∀ v, ¬ c.Breaks v)
      (haccepted : Subscribed on t EventKind.all after) (hconfig : client.config = c)
      (hhandlers : client.handlers = .full ()) (hfresh : client.store.Fresh)
      (hkeeps : ∀ uses, (client.store.through uses).KeepsNewest c.retention) :
      Outcome on c t (.ok client, after)

theorem outcome (on : String → Subscriber → StateM τ (Except Error Unit)) (c : Config) (t : τ) :
    Outcome on c t ((build on c).run t) := by
  obtain ⟨hlawful, hvalid⟩ | ⟨v, hbroken, hinvalid⟩ := c.validate_cases
  · obtain ⟨after, haccepted, hrun⟩ | ⟨accepted, kind, rest, before, e, after, hkinds, haccepted, hrefused, hrun⟩ :=
      build_cases on hvalid t
    · rw [hrun]
      have hheartbeats : c.retention.heartbeats ≠ 0 := fun hzero => hlawful .zeroCapacity (.inl hzero)
      have himportant : c.retention.importantHeartbeats ≠ 0 := fun hzero => hlawful .zeroCapacity (.inr hzero)
      have hretains : (Store.empty c.retention).Retains c.retention := .opened rfl
      exact .built hlawful haccepted rfl rfl (Store.fresh_empty c.retention) fun uses =>
        (hretains.through uses).keepsNewest hheartbeats himportant
    · rw [hrun]
      exact .refused hlawful hkinds haccepted hrefused
  · rw [build_of_invalid hinvalid]
    exact .rejected hbroken

/-- A client is built from what its builder was told last. It is refused if that breaks a rule; otherwise the
handlers are registered in order, up to the first that is refused, with the error of the refusal. A client that was
built knows nothing yet, and its store keeps the newest heartbeats whatever happens to it. A registrar that accepts
handlers has one more callback for each, and one that refuses a handler stays as it is. -/
theorem outcome_of_build (calls : List Call) :
    configOf calls = replayed calls ∧
    (∀ d : Duration, d.clampedMillis.toNat = min (d.nanos / 1000000) (2 ^ 64 - 1)) ∧
    (∀ {τ : Type} (on : String → Subscriber → StateM τ (Except Error Unit)) (t : τ),
      Outcome on (configOf calls) t ((build on (configOf calls)).run t)) ∧
    ∀ registrar : Registrar Subscriber,
      (∀ kinds after, Subscribed Registrar.register registrar kinds after →
        registrar.Gains .handler kinds after) ∧
      (∀ (kind : EventKind) e after,
        (Registrar.register kind.name (.handler kind)).run registrar = (.error e, after) →
        registrar.refuses = some kind.name ∧ e = .notRegistered kind.name "refused" ∧ after = registrar) ∧
      let built := (build Registrar.register (configOf calls)).run registrar
      (Session.build (configOf calls)).run registrar =
        (built.1.map fun client => { client with registrar := built.2 }, built.2) := by
  refine ⟨configOf_eq_replayed calls, Duration.toNat_clampedMillis, fun on t => outcome on _ t, fun registrar => ?_⟩
  exact ⟨fun kinds after => Session.gains_of_subscribed, fun kind e after => Registrar.refuses_of_error,
    Session.run_build _ registrar⟩

-- A period of less than a millisecond is kept as none at all.
example : (configOf [.config {}, .pollInterval ⟨999999⟩]).violation? = some .zeroPollInterval := by decide +kernel

end Builder
end UptimeSync
