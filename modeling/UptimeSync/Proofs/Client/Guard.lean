import UptimeSync.Proofs.Action.Ending
import UptimeSync.Proofs.Client.Built
import UptimeSync.Proofs.Client.Connection

namespace UptimeSync

open Happening

/-- An action either refuses its arguments or begins with the wait for the connection, and it ends where
that wait fails. -/
theorem Action.program_awaits_connection (a : Action) :
    (∃ e, a.program = .done (.error e)) ∨
      ∃ next, a.program = .await .connect next ∧
        ∀ e, next (.error e) = .done (.error (.awaitFailed .connect e)) := by
  cases hattended : a.isUnattended with
  | false =>
    rw [program_eq_exchange a hattended, exchange]
    cases a.verdict with
    | error e => exact .inl ⟨e, rfl⟩
    | ok _ => exact .inr ⟨_, rfl, fun _ => rfl⟩
  | true =>
    rw [program_of_unattended hattended]
    exact .inr ⟨_, rfl, fun _ => rfl⟩

namespace Chronicle

variable {c : Chronicle}

/-- The invariant of a chronicle: if the connection counts as made, it was heard of, and nothing that
needs it happened before. -/
structure Sound (c : Chronicle) : Prop where
  known : EventKind.connect.occurred c.session.store = true → Informed c.happenings
  ordered : Ordered c.happenings

/-- Nothing that a program does can break the invariant once the connection was heard of. -/
theorem Sound.run {α : Type} (hsound : c.Sound) (hinformed : Informed c.happenings) (p : Program α) :
    ((p.run host).run c).2.Sound := by
  obtain ⟨more, hmore⟩ := happenings_run p c
  constructor
  · intro _
    rw [hmore]
    exact informed_append.mpr (.inl hinformed)
  · rw [hmore]
    exact hsound.ordered.append fun _ _ _ => hinformed

theorem Sound.receive (hsound : c.Sound) {after : Session} {pushes : List Push}
    (hafter : EventKind.connect.occurred after.store = true →
      EventKind.connect.occurred c.session.store = true ∨ Informed (c.session.handling pushes)) :
    Sound ⟨after, c.happenings ++ c.session.handling pushes⟩ := by
  constructor
  · intro hoccurred
    rw [informed_append]
    exact (hafter hoccurred).imp_left hsound.known
  · refine hsound.ordered.append fun happening hmem hneeds => ?_
    rw [Session.not_needsConnection_of_handling hmem] at hneeds
    cases hneeds

/-- A wait of an action delivers events, and it succeeds for the connection only if that was heard of. -/
theorem Sound.await (hsound : c.Sound) (kind : EventKind) :
    let waited := (host.await kind).run c
    waited.2.Sound ∧ (kind = .connect → waited.1 = .ok () → Informed waited.2.happenings) := by
  intro waited
  let s := c.session
  let w := s.wait kind s.config.timeouts.await
  obtain ⟨due, rest, clock, hwaited, hdue⟩ := s.awaitAll_eq [(kind, s.config.timeouts.await)]
  have hsession : waited.2.session = { s.receiveAll due with clock, pending := rest } :=
    congrArg Prod.snd hwaited
  have hresult : waited.1 = ((s.observeAll s.clock due [w]).head?.map Wait.result).getD (.ok ()) :=
    congrArg (fun result => (result.1.head?.map Wait.result).getD (.ok ())) hwaited
  have hhappenings : waited.2.happenings = c.happenings ++ s.handling due ++ [.awaited kind waited.1] := by
    rw [List.append_assoc, ← hdue]
    rfl
  have hreceived : Sound ⟨s.receiveAll due, c.happenings ++ s.handling due⟩ :=
    hsound.receive Session.connect_of_receiveAll
  have hinformed : kind = .connect → waited.1 = .ok () → Informed (c.happenings ++ s.handling due) := by
    rintro rfl hok
    rw [hresult] at hok
    exact Session.informed_of_wait hsound.known hok
  refine ⟨⟨?_, ?_⟩, ?_⟩
  · intro hoccurred
    rw [hsession] at hoccurred
    rw [hhappenings, informed_append]
    exact .inl (hreceived.known hoccurred)
  · rw [hhappenings]
    refine hreceived.ordered.append fun happening hmem hneeds => ?_
    obtain rfl := List.mem_singleton.mp hmem
    obtain ⟨hkind, hok⟩ := connect_of_needsConnection hneeds
    exact hinformed hkind hok
  · intro hkind hok
    rw [hhappenings, informed_append]
    exact .inl (hinformed hkind hok)

theorem Sound.act (hsound : c.Sound) (a : Action) : (c.next (.act a)).Sound := by
  change ((a.program.run host).run c).2.Sound
  obtain ⟨e, hprogram⟩ | ⟨next, hprogram, hfailed⟩ := a.program_awaits_connection
  · rw [hprogram]
    exact hsound
  -- Where the wait fails nothing follows; where it succeeds the connection was heard of, and whatever
  -- follows comes after that.
  · let waited := (host.await .connect).run c
    obtain ⟨hwaited, hinformed⟩ := hsound.await .connect
    have hrun : (a.program.run host).run c = ((next waited.1).run host).run waited.2 := by
      rw [hprogram]
      rfl
    rw [hrun]
    cases hresult : waited.1 with
    | error e =>
      rw [hfailed]
      exact hwaited
    | ok _ => exact hwaited.run (hinformed rfl hresult) (next (.ok ()))

/-- Every step of a client keeps the invariant. -/
theorem Sound.next (hsound : c.Sound) (step : ClientStep) : (c.next step).Sound := by
  cases step with
  | act a => exact hsound.act a
  | push event args =>
    let p : Push := ⟨c.session.clock, event, args⟩
    have hreceived : EventKind.connect.occurred (c.session.receiveAll [p]).store = true →
        EventKind.connect.occurred c.session.store = true ∨ Informed (c.session.handling [p]) :=
      Session.connect_of_receiveAll
    exact hsound.receive hreceived
  | wait events =>
    obtain ⟨due, rest, clock, hwaited, hdue⟩ := c.session.awaitAll_eq events
    refine hsound.receive fun hoccurred => ?_
    rw [ClientStep.on, hdue]
    rw [ClientStep.on, hwaited] at hoccurred
    exact Session.connect_of_receiveAll hoccurred
  | emit action timeout args =>
    refine ⟨fun hoccurred => hsound.known ?_, hsound.ordered⟩
    have hstore : ((ClientStep.emit action timeout args).on c.session).store = c.session.store :=
      Session.store_emit action timeout args c.session
    rwa [← hstore]
  | close => exact ⟨nofun, hsound.ordered⟩
  | schedule | acknowledge | listen => exact ⟨hsound.known, hsound.ordered⟩

theorem Sound.after (hsound : c.Sound) (steps : List ClientStep) : (c.after steps).Sound := by
  induction steps generalizing c with
  | nil => exact hsound
  | cons step rest ih => exact ih (hsound.next step)

/-- In every run of a client that has been built, whatever the server pushes and when, an action sends
nothing and does not get past its wait for the connection before the connection or its loss was
handled. -/
theorem nothing_before_connection {config : Config} {registrar : Registrar Subscriber} {session : Session}
    (hbuilt : ((Session.build config).run registrar).1 = .ok session) (steps : List ClientStep) :
    let c := (⟨session, []⟩ : Chronicle).after steps
    c.session = session.after steps ∧
    ∀ earlier happening later, c.happenings = earlier ++ happening :: later →
      happening.needsConnection = true →
      ∃ kind args, (kind = .connect ∨ kind = .disconnect) ∧ handled kind args ∈ earlier := by
  intro c
  have hstart : Sound ⟨session, []⟩ := by
    constructor
    · rw [Session.store_of_build hbuilt]
      exact nofun
    · intro earlier happening later hnil
      exact absurd hnil.symm (List.append_ne_nil_of_right_ne_nil earlier (List.cons_ne_nil happening later))
  refine ⟨session_after _ steps, ?_⟩
  intro earlier happening later hhappenings hneeds
  obtain ⟨told, hmem, htells⟩ := (hstart.after steps).ordered earlier happening later hhappenings hneeds
  obtain ⟨kind, args, rfl, hkind⟩ := handled_of_tellsConnection htells
  exact ⟨kind, args, hkind, hmem⟩

/-- A client sends a request that needs the connection once the server has pushed its first event. -/
theorem request_after_connect :
    ∃ session, ((Session.build {}).run {}).1 = .ok session ∧
      let c := (⟨session, []⟩ : Chronicle).after
        [.push "connect" [], .acknowledge (.value (.array [.bool true])), .act .needSetup]
      ∃ earlier happening later, c.happenings = earlier ++ happening :: later ∧
        happening.needsConnection = true ∧
        ∃ kind args, (kind = .connect ∨ kind = .disconnect) ∧ handled kind args ∈ earlier := by
  have hbuilt : ((Session.build {}).run {}).1 = .ok _ := rfl
  refine ⟨_, hbuilt, ?_⟩
  intro c
  have hneeded : c.happenings.any needsConnection = true := by decide +kernel
  obtain ⟨happening, hmem, hneeds⟩ := List.any_eq_true.mp hneeded
  obtain ⟨earlier, later, hhappenings⟩ := List.append_of_mem hmem
  refine ⟨earlier, happening, later, hhappenings, hneeds, ?_⟩
  exact (nothing_before_connection hbuilt _).2 earlier happening later hhappenings hneeds

/-- The loss of a connection that was never made lets an action send its request: the handler of the loss
is the only one that has run. -/
theorem request_without_connect :
    ((Session.build {}).run {}).1.toOption.map (fun session =>
      let c := (⟨session, []⟩ : Chronicle).after
        [.push "disconnect" [], .acknowledge (.value (.array [.bool true])), .act .needSetup]
      (c.happenings.filterMap handled?, c.session.requests.map Request.action)) =
    some ([.disconnect], ["needSetup"]) := by decide +kernel

end Chronicle
end UptimeSync
