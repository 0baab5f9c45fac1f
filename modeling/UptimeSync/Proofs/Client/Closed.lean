import UptimeSync.Proofs.Client.Guard
import UptimeSync.Proofs.Run.Closed

namespace UptimeSync

namespace Session

variable {P : Session → Prop} {s : Session}

/-- What no subscriber breaks, no event breaks. -/
theorem keeps_receive (hrun : ∀ subscriber args s, P s → P ((runSubscriber subscriber args).run s).2)
    (hs : P s) (event : String) (args : List Json) : P ((receive event args).run s).2 := by
  change P ((Callbacks.runAll (runSubscriber · args) (s.registrar.callbacks.forEvent event)).run s).2
  generalize s.registrar.callbacks.forEvent event = subscribers
  induction subscribers generalizing s with
  | nil => exact hs
  | cons subscriber rest ih => exact ih (hrun subscriber args s hs)

theorem keeps_receiveAll (hrun : ∀ subscriber args s, P s → P ((runSubscriber subscriber args).run s).2)
    (hs : P s) (pushes : List Push) : P (s.receiveAll pushes) := by
  induction pushes generalizing s with
  | nil => exact hs
  | cons p rest ih => exact ih (keeps_receive hrun hs p.event p.args)

theorem detached_runSubscriber (subscriber : Subscriber) (args : List Json) (s : Session)
    (hs : s.store = .detached) : ((runSubscriber subscriber args).run s).2.store = .detached := by
  cases subscriber with
  | listener l => exact hs
  | handler kind =>
    obtain ⟨result, hhandled, -⟩ := kind.handle_detached args
    change ((kind.handle args).on s.store).2 = _
    rw [hs, hhandled]

theorem requests_runSubscriber (requests : List Request) (subscriber : Subscriber) (args : List Json)
    (s : Session) (hs : s.requests = requests) :
    ((runSubscriber subscriber args).run s).2.requests = requests := by
  cases subscriber <;> exact hs

theorem observeAll_detached (hs : s.store = .detached) (start : Nat) (pushes : List Push)
    (waits : List Wait) : s.observeAll start pushes waits = waits := by
  induction pushes generalizing s waits with
  | nil => rfl
  | cons p rest ih =>
    have hafter : ((receive p.event p.args).run s).2.store = .detached :=
      keeps_receive detached_runSubscriber hs p.event p.args
    have hunseen (t : Nat) (w : Wait) : w.observe t .detached = w := by
      rw [Wait.observe, Store.unoccurred_detached, Bool.and_false]
      rfl
    rw [observeAll, ih hafter, hafter, funext (hunseen _), List.map_id']

/-- With a closed store a wait for an event runs into its timeout. -/
theorem await_detached (hs : s.store = .detached) (kind : EventKind) (timeout : Duration) :
    ∃ due rest clock, (await kind timeout).run s =
      (.error (.awaitTimeout kind timeout), { s.receiveAll due with clock, pending := rest }) := by
  obtain ⟨due, rest, clock, hwaited, -⟩ := s.awaitAll_eq [(kind, timeout)]
  refine ⟨due, rest, clock, ?_⟩
  rw [observeAll_detached hs] at hwaited
  have hresult : (s.wait kind timeout).result = .error (.awaitTimeout kind timeout) := by
    rw [wait, hs, Wait.observe, Store.unoccurred_detached, Bool.and_false]
    rfl
  change ((((awaitAll [(kind, timeout)]).run s).1.head?.map Wait.result).getD (.ok ()),
    ((awaitAll [(kind, timeout)]).run s).2) = _
  rw [hwaited]
  exact congrArg (·, _) hresult

end Session

namespace Chronicle

theorem not_requested_of_handling {s : Session} {pushes : List Push} {action : String} {args : List Json} :
    .requested action args ∉ s.handling pushes := by
  intro hmem
  have hfree := Session.not_needsConnection_of_handling hmem
  cases hfree

/-- With a closed store an action waits in vain for the connection, if it waits for it at all. -/
theorem act_detached {s : Session} (hs : s.store = .detached) (a : Action) :
    let run := (a.program.run host).run ⟨s, []⟩
    (∃ e, run.1 = .error e) ∧ run.2.session.store = .detached ∧ run.2.session.requests = s.requests ∧
      ∀ action args, .requested action args ∉ run.2.happenings := by
  obtain ⟨e, hprogram⟩ | ⟨next, hprogram, hfailed⟩ := a.program_awaits_connection
  · rw [hprogram]
    exact ⟨⟨e, rfl⟩, hs, rfl, fun _ _ => List.not_mem_nil⟩
  · let waited := (host.await .connect).run ⟨s, []⟩
    obtain ⟨due, rest, clock, hawait⟩ := Session.await_detached hs .connect s.config.timeouts.await
    have hresult : waited.1 = .error (.awaitTimeout .connect s.config.timeouts.await) :=
      congrArg Prod.fst hawait
    have hsession : waited.2.session = { s.receiveAll due with clock, pending := rest } :=
      congrArg Prod.snd hawait
    have hended : (a.program.run host).run ⟨s, []⟩ =
        (.error (.awaitFailed .connect (.awaitTimeout .connect s.config.timeouts.await)), waited.2) := by
      rw [hprogram]
      change ((next waited.1).run host).run waited.2 = _
      rw [hresult, hfailed]
      rfl
    rw [hended]
    refine ⟨⟨_, rfl⟩, ?_, ?_, ?_⟩
    · rw [hsession]
      exact Session.keeps_receiveAll Session.detached_runSubscriber hs due
    · rw [hsession]
      exact Session.keeps_receiveAll (Session.requests_runSubscriber s.requests) rfl due
    · intro action args hmem
      have hhappened : .requested action args ∈ s.handling (s.delivered waited.2.session) ++
          [Happening.awaited .connect waited.1] := hmem
      simp [not_requested_of_handling] at hhappened

end Chronicle

/-- Something that is done with a client, or with a handle of its store. -/
inductive ClientUse : Type 1 where
  | client (step : ClientStep)
  | handle (use : StoreUse)

namespace ClientUse

def on : ClientUse → Session → Session
  | client step, s => step.on s
  | handle use, s => { s with store := use.on s.store }

theorem detached_on {s : Session} (hs : s.store = .detached) (use : ClientUse) :
    (use.on s).store = .detached := by
  cases use with
  | handle use =>
    rw [on, hs]
    exact use.on_detached
  | client step =>
    rw [on]
    cases step with
    | push event args => exact Session.keeps_receive Session.detached_runSubscriber hs event args
    | schedule | acknowledge | listen => exact hs
    | wait events =>
      obtain ⟨due, rest, clock, hwaited, -⟩ := s.awaitAll_eq events
      rw [ClientStep.on, hwaited]
      exact Session.keeps_receiveAll Session.detached_runSubscriber hs due
    | emit action timeout args => exact (Session.store_emit action timeout args s).trans hs
    | act a =>
      rw [ClientStep.on, ← (Chronicle.run_host a.program ⟨s, []⟩).2]
      exact (Chronicle.act_detached hs a).2.1
    | close => rfl

end ClientUse

def Session.through (s : Session) (uses : List ClientUse) : Session :=
  uses.foldl (fun s use => use.on s) s

theorem Session.detached_through {s : Session} (hs : s.store = .detached) (uses : List ClientUse) :
    (s.through uses).store = .detached := by
  induction uses generalizing s with
  | nil => exact hs
  | cons use rest ih => exact ih (use.detached_on hs)

/-- Holds of a client that cannot do anything any more: its store is inert, and an action fails without
sending anything, be it over a connection that is still there. -/
structure Session.Inert (s : Session) : Prop where
  store : s.store.Inert
  act (a : Action) : ∃ e, ((a.program.run host).run s).1 = .error e
  unsent (a : Action) : ((a.program.run host).run s).2.requests = s.requests
  silent (a : Action) (action : String) (args : List Json) :
    .requested action args ∉ ((⟨s, []⟩ : Chronicle).next (.act a)).happenings

theorem Session.inert_of_detached {s : Session} (hs : s.store = .detached) : s.Inert := by
  have hact (a : Action) := Chronicle.act_detached hs a
  refine ⟨hs ▸ Store.inert_detached, fun a => ?_, fun a => ?_, fun a => (hact a).2.2.2⟩
  · rw [← (Chronicle.run_host a.program ⟨s, []⟩).1]
    exact (hact a).1
  · rw [← (Chronicle.run_host a.program ⟨s, []⟩).2]
    exact (hact a).2.2.1

/-- A store that is closed stays closed, whatever is done with its handles, and so does a client whose
store is closed, be it by the client or by another handle of the store. -/
theorem closed_for_good :
    (∀ uses : List StoreUse, (Store.detached.through uses).Inert) ∧
    (∀ (s : Store) (uses : List StoreUse), (s.close.through uses).Inert) ∧
    (∀ (s : Session) (uses : List ClientUse), (s.close.through uses).Inert) ∧
    ∀ (s : Session) (uses : List ClientUse), (({ s with store := s.store.close }).through uses).Inert := by
  have hstore (uses : List StoreUse) : (Store.detached.through uses).Inert := by
    rw [Store.through_detached]
    exact Store.inert_detached
  have hclient (s : Session) (hs : s.store = .detached) (uses : List ClientUse) : (s.through uses).Inert :=
    Session.inert_of_detached (Session.detached_through hs uses)
  exact ⟨hstore, fun _ => hstore, fun s => hclient s.close rfl, fun s => hclient _ rfl⟩

end UptimeSync
