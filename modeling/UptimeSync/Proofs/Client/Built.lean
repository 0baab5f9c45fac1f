import UptimeSync.Client.Builder
import UptimeSync.Proofs.Event.Registration

namespace UptimeSync

namespace Builder

variable {τ : Type} {on : String → Subscriber → StateM τ (Except Error Unit)} {c : Config}

/-- Registers the subscriber that a handler is. -/
def subscribe (on : String → Subscriber → StateM τ (Except Error Unit)) (h : Handler Unit) :
    StateM τ (Except Error Unit) :=
  on h.kind.name (.handler h.kind)

/-- Holds of a connection before and after the handlers for some kinds were registered, one after the other, none
of them refused. -/
def Subscribed (on : String → Subscriber → StateM τ (Except Error Unit)) (t : τ) (kinds : List EventKind)
    (after : τ) : Prop :=
  Handler.Accepted (subscribe on) t (kinds.map fun kind => ⟨kind, ()⟩) after

theorem build_of_invalid {e : Error} (hinvalid : c.validate = .error e) (t : τ) :
    (build on c).run t = (.error e, t) := by
  rw [build, hinvalid]
  rfl

theorem handlers_full : (Registry.full ()).handlers = EventKind.all.map fun kind => ⟨kind, ()⟩ := rfl

theorem build_of_valid (hvalid : c.validate = .ok ()) (t : τ) :
    (build on c).run t =
      match (Handler.registerEach (subscribe on) (EventKind.all.map fun kind => ⟨kind, ()⟩)).run t with
      | (.ok (), after) => (.ok { config := c, store := .empty c.retention }, after)
      | (.error e, after) => (.error e, after) := by
  rw [build, hvalid, StateT.run_bind, ← handlers_full]
  change (Handler.registerEach (subscribe on) (Registry.full ()).handlers).run t >>= _ = _
  generalize (Handler.registerEach (subscribe on) (Registry.full ()).handlers).run t = registered
  obtain ⟨answer, after⟩ := registered
  cases answer <;> rfl

/-- A client is built if its configuration is valid and every handler is accepted, in the order of the kinds. -/
theorem build_cases (on : String → Subscriber → StateM τ (Except Error Unit)) (hvalid : c.validate = .ok ())
    (t : τ) :
    (∃ after, Subscribed on t EventKind.all after ∧
      (build on c).run t = (.ok { config := c, store := .empty c.retention }, after)) ∨
    ∃ accepted kind rest before e after, EventKind.all = accepted ++ kind :: rest ∧
      Subscribed on t accepted before ∧ (on kind.name (.handler kind)).run before = (.error e, after) ∧
      (build on c).run t = (.error e, after) := by
  rw [build_of_valid hvalid]
  obtain ⟨after, haccepted, hrun⟩ | ⟨accepted, refused, rest, before, e, after, hhandlers, haccepted, hrefused, hrun⟩ :=
    Handler.registerEach_cases (subscribe on) (EventKind.all.map fun kind => ⟨kind, ()⟩) t
  · rw [hrun]
    exact .inl ⟨after, haccepted, rfl⟩
  · rw [hrun]
    obtain ⟨earlier, later, hkinds, hearlier, hlater⟩ := List.map_eq_append_iff.mp hhandlers
    obtain ⟨kind, rest, rfl, rfl, -⟩ := List.map_eq_cons_iff.mp hlater
    subst hearlier
    exact .inr ⟨earlier, kind, rest, before, e, after, hkinds, haccepted, hrefused, rfl⟩

end Builder

namespace Session

open Builder

variable {config : Config} {registrar : Registrar Subscriber} {session : Session}

theorem run_build (c : Config) (registrar : Registrar Subscriber) :
    let built := (Builder.build Registrar.register c).run registrar
    (build c).run registrar = (built.1.map fun client => { client with registrar := built.2 }, built.2) := by
  intro built
  rw [build, StateT.run_bind]
  change built >>= _ = _
  obtain ⟨answer, after⟩ := built
  cases answer <;> rfl

/-- A client that has been built has an empty store, and all handlers were registered. -/
theorem session_of_build (hbuilt : ((build config).run registrar).1 = .ok session) :
    Subscribed Registrar.register registrar EventKind.all session.registrar ∧
      session = { config, store := .empty config.retention, registrar := session.registrar } := by
  rw [run_build] at hbuilt
  cases hvalid : config.validate with
  | error e =>
    rw [build_of_invalid hvalid] at hbuilt
    cases hbuilt
  | ok _ =>
    obtain ⟨after, hsubscribed, hrun⟩ | ⟨_, _, _, _, e, _, _, _, _, hrun⟩ :=
      build_cases Registrar.register hvalid registrar
    · rw [hrun] at hbuilt
      cases hbuilt
      exact ⟨hsubscribed, rfl⟩
    · rw [hrun] at hbuilt
      cases hbuilt

theorem store_of_build (hbuilt : ((build config).run registrar).1 = .ok session) :
    session.store = .empty config.retention := by
  rw [(session_of_build hbuilt).2]

/-- A registrar by which handlers for some kinds were accepted has one more callback for each. -/
theorem gains_of_subscribed {kinds : List EventKind} {after : Registrar Subscriber}
    (hsubscribed : Subscribed Registrar.register registrar kinds after) :
    registrar.Gains .handler kinds after := by
  have hgains := Registrar.gains_of_accepted hsubscribed
  rwa [List.map_map, List.map_id''] at hgains
  exact fun _ => rfl

/-- A client that has been built has one handler for each event with a handler, behind the callbacks that
the registrar had before. -/
theorem forEvent_of_build (hbuilt : ((build config).run registrar).1 = .ok session) (event : String) :
    session.registrar.callbacks.forEvent event =
      registrar.callbacks.forEvent event ++ (EventKind.ofName? event).toList.map .handler := by
  rw [(gains_of_subscribed (session_of_build hbuilt).1).forEvent, EventKind.filter_all_eq_ofName?]

end Session
end UptimeSync
