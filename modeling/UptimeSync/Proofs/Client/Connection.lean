import UptimeSync.Client.Builder
import UptimeSync.Proofs.Client.Chronicle
import UptimeSync.Proofs.Run.Closed
import UptimeSync.Proofs.Run.Occurrence

namespace UptimeSync

namespace Happening

def handled? : Happening → Option EventKind
  | handled kind _ => some kind
  | _ => none

/-- Holds where the handler of the connection has run, or that of its loss. -/
def tellsConnection : Happening → Bool
  | handled .connect _ | handled .disconnect _ => true
  | _ => false

theorem handled_of_tellsConnection {happening : Happening} (htells : happening.tellsConnection = true) :
    ∃ kind args, happening = handled kind args ∧ (kind = .connect ∨ kind = .disconnect) := by
  cases happening with
  | handled kind args =>
    refine ⟨kind, args, rfl, ?_⟩
    cases kind with
    | connect => exact .inl rfl
    | disconnect => exact .inr rfl
    | _ => cases htells
  | _ => cases htells

/-- Holds of what an action does only over a connection: it sends a request, or it goes on after it
waited for the connection. -/
def needsConnection : Happening → Bool
  | requested .. | awaited .connect (.ok ()) => true
  | _ => false

theorem connect_of_needsConnection {kind : EventKind} {result : Except Error Unit}
    (hneeds : (awaited kind result).needsConnection = true) : kind = .connect ∧ result = .ok () := by
  cases kind with
  | connect =>
    cases result with
    | ok _ => exact ⟨rfl, rfl⟩
    | error e => cases hneeds
  | _ => cases hneeds

/-- Holds of happenings by which it is known whether there is a connection. -/
def Informed (happenings : List Happening) : Prop :=
  ∃ happening ∈ happenings, happening.tellsConnection = true

theorem informed_append {first later : List Happening} :
    Informed (first ++ later) ↔ Informed first ∨ Informed later := by
  simp only [Informed, List.mem_append, or_and_right, exists_or]

/-- Holds of happenings that need the connection only after it was heard of. -/
def Ordered (happenings : List Happening) : Prop :=
  ∀ earlier happening later, happenings = earlier ++ happening :: later →
    happening.needsConnection = true → Informed earlier

theorem Ordered.append {first later : List Happening} (hordered : Ordered first)
    (hlater : ∀ happening ∈ later, happening.needsConnection = true → Informed first) :
    Ordered (first ++ later) := by
  intro earlier happening rest heq hneeds
  -- The happening is one of the later ones, or the first ones go on from it.
  obtain ⟨between, hearlier, hsplit⟩ | ⟨between, hfirst, hrest⟩ := List.append_eq_append_iff.mp heq
  · have hmem : happening ∈ later := by
      rw [hsplit]
      exact List.mem_append_right _ List.mem_cons_self
    rw [hearlier]
    exact informed_append.mpr (.inl (hlater happening hmem hneeds))
  · cases between with
    | nil =>
      rw [List.append_nil] at hfirst
      have hmem : happening ∈ later := by
        rw [← List.nil_append later, ← hrest]
        exact List.mem_cons_self
      exact hfirst ▸ hlater happening hmem hneeds
    | cons head tail =>
      rw [List.cons_append] at hrest
      obtain ⟨rfl, rfl⟩ := List.cons.inj hrest
      exact hordered earlier happening tail hfirst hneeds

end Happening

open Happening

namespace EventKind

/-- Only the handlers of the connection and of its loss make the connection count as made. -/
theorem connect_of_handle {kind : EventKind} {args : List Json} {s : Store}
    (hoccurred : connect.occurred ((kind.handle args).on s).2 = true) :
    connect.occurred s = true ∨ (handled kind args).tellsConnection = true := by
  obtain ⟨contents?⟩ := s
  cases contents? with
  | none =>
    obtain ⟨result, hhandled, -⟩ := kind.handle_detached args
    have hafter : ((kind.handle args).on ⟨none⟩).2 = .detached := congrArg Prod.snd hhandled
    rw [hafter] at hoccurred
    exact .inl hoccurred
  | some c =>
    obtain hbefore | ⟨-, hsignals⟩ := ((Operation.event kind args).occurred_on c connect).mp hoccurred
    · exact .inl hbefore
    · right
      obtain ⟨_, hevent⟩ | ⟨_, hevent⟩ | ⟨_, hwrite⟩ := hsignals
      · cases hevent
        rfl
      · cases hevent
        rfl
      · cases hwrite

end EventKind

namespace Session

variable {happenings : List Happening} {s : Session}

theorem connect_of_runAll {subscribers : List Subscriber} {args : List Json}
    (hoccurred : EventKind.connect.occurred
      ((Callbacks.runAll (runSubscriber · args) subscribers).run s).2.store = true) :
    EventKind.connect.occurred s.store = true ∨
      Informed ((subscribers.filterMap Subscriber.kind?).map (handled · args)) := by
  induction subscribers generalizing s with
  | nil => exact .inl hoccurred
  | cons subscriber rest ih =>
    obtain hfirst | hrest := ih (s := ((runSubscriber subscriber args).run s).2) hoccurred
    · cases subscriber with
      | listener l => exact .inl hfirst
      | handler kind =>
        obtain hbefore | htells := EventKind.connect_of_handle hfirst
        · exact .inl hbefore
        · exact .inr ⟨handled kind args, List.mem_cons_self, htells⟩
    · obtain ⟨happening, hmem, htells⟩ := hrest
      refine .inr ⟨happening, ?_, htells⟩
      cases subscriber with
      | listener l => exact hmem
      | handler kind => exact List.mem_cons_of_mem _ hmem

theorem connect_of_receive {event : String} {args : List Json}
    (hoccurred : EventKind.connect.occurred ((receive event args).run s).2.store = true) :
    EventKind.connect.occurred s.store = true ∨ Informed ((s.handlersOf event).map (handled · args)) :=
  connect_of_runAll hoccurred

theorem connect_of_receiveAll {pushes : List Push}
    (hoccurred : EventKind.connect.occurred (s.receiveAll pushes).store = true) :
    EventKind.connect.occurred s.store = true ∨ Informed (s.handling pushes) := by
  induction pushes generalizing s with
  | nil => exact .inl hoccurred
  | cons p rest ih =>
    rw [handling, informed_append]
    obtain hfirst | hrest := ih hoccurred
    · obtain hbefore | hinformed := connect_of_receive hfirst
      · exact .inl hbefore
      · exact .inr (.inl hinformed)
    · exact .inr (.inr hrest)

theorem not_needsConnection_of_handling {pushes : List Push} {happening : Happening}
    (hmem : happening ∈ s.handling pushes) : happening.needsConnection = false := by
  induction pushes generalizing s with
  | nil => cases hmem
  | cons p rest ih =>
    obtain hfirst | hrest := List.mem_append.mp hmem
    · obtain ⟨kind, -, rfl⟩ := List.mem_map.mp hfirst
      rfl
    · exact ih hrest

end Session

/-- Holds of a wait for the connection that has not found it made unless it was heard of. -/
def Wait.Justified (happenings : List Happening) (w : Wait) : Prop :=
  w.kind = .connect ∧ (w.since?.isSome = true → Informed happenings)

theorem Wait.Justified.observe {happenings : List Happening} {w : Wait} (hjustified : w.Justified happenings)
    {s : Store} (hknown : EventKind.connect.occurred s = true → Informed happenings) (t : Nat) :
    (w.observe t s).Justified happenings := by
  rw [Wait.observe]
  split
  · next hseen =>
    refine ⟨hjustified.1, fun _ => hknown ?_⟩
    rw [Bool.and_eq_true, hjustified.1] at hseen
    exact hseen.2
  · exact hjustified

theorem Wait.Justified.append {happenings : List Happening} {w : Wait} (hjustified : w.Justified happenings)
    (more : List Happening) : w.Justified (happenings ++ more) :=
  ⟨hjustified.1, fun hsince => informed_append.mpr (.inl (hjustified.2 hsince))⟩

theorem Session.justified_observeAll {start : Nat} {s : Session} {pushes : List Push} {waits : List Wait}
    {happenings : List Happening}
    (hknown : EventKind.connect.occurred s.store = true → Informed happenings)
    (hwaits : ∀ w ∈ waits, w.Justified happenings) :
    ∀ w ∈ s.observeAll start pushes waits, w.Justified (happenings ++ s.handling pushes) := by
  -- What has happened grows with the session, so that both are general in the induction.
  induction pushes generalizing s waits happenings with
  | nil =>
    rw [handling, List.append_nil]
    exact hwaits
  | cons p rest ih =>
    let after := ((receive p.event p.args).run s).2
    let ran := (s.handlersOf p.event).map (handled · p.args)
    have hafter : EventKind.connect.occurred after.store = true → Informed (happenings ++ ran) := by
      intro hoccurred
      rw [informed_append]
      exact (connect_of_receive hoccurred).imp_left hknown
    rw [handling, ← List.append_assoc]
    refine ih hafter ?_
    intro w hw
    obtain ⟨before, hbefore, rfl⟩ := List.mem_map.mp hw
    exact ((hwaits before hbefore).append ran).observe hafter _

theorem Session.length_observeAll (start : Nat) (s : Session) (pushes : List Push) (waits : List Wait) :
    (s.observeAll start pushes waits).length = waits.length := by
  induction pushes generalizing s waits with
  | nil => rfl
  | cons p rest ih =>
    rw [observeAll, ih, List.length_map]

theorem Wait.since_of_result {w : Wait} (hresult : w.result = .ok ()) : w.since?.isSome = true := by
  rw [result] at hresult
  split at hresult
  · next hmet =>
    cases hsince : w.since? with
    | none =>
      rw [metAt?, hsince] at hmet
      cases hmet
    | some t => rfl
  · cases hresult

namespace Session

theorem justified_wait {happenings : List Happening} {s : Session}
    (hknown : EventKind.connect.occurred s.store = true → Informed happenings) (timeout : Duration) :
    (s.wait .connect timeout).Justified happenings := by
  refine Wait.Justified.observe ⟨rfl, ?_⟩ hknown 0
  intro hsince
  cases hsince

/-- Waiting for the connection succeeds only if it was heard of, before the wait or in its course. -/
theorem informed_of_wait {start : Nat} {s : Session} {pushes : List Push} {timeout : Duration}
    {happenings : List Happening}
    (hknown : EventKind.connect.occurred s.store = true → Informed happenings)
    (hresult : ((s.observeAll start pushes [s.wait .connect timeout]).head?.map Wait.result).getD (.ok ()) =
      .ok ()) :
    Informed (happenings ++ s.handling pushes) := by
  -- There is one wait, so its result is that of a wait and not the answer to no waits at all.
  have hlength := s.length_observeAll start pushes [s.wait .connect timeout]
  obtain ⟨ended, hended⟩ := List.length_eq_one_iff.mp hlength
  have hwaits : ∀ w ∈ [s.wait .connect timeout], w.Justified happenings := by
    intro w hw
    obtain rfl := List.mem_singleton.mp hw
    exact justified_wait hknown timeout
  have hjustified := justified_observeAll hknown hwaits ended (hended ▸ List.mem_singleton_self ended)
  rw [hended] at hresult
  exact hjustified.2 (Wait.since_of_result hresult)

end Session
end UptimeSync
