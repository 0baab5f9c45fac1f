import UptimeSync.Event.Registrar
import UptimeSync.Event.Registry
import UptimeSync.Proofs.Event.Callbacks

namespace UptimeSync

namespace Handler

variable {τ σ : Type}

theorem registerEach_cons_run (register : Handler σ → StateM τ (Except Error Unit)) (handler : Handler σ)
    (rest : List (Handler σ)) (t : τ) :
    (registerEach register (handler :: rest)).run t =
      match ((register handler).run t).1 with
      | .ok () => (registerEach register rest).run ((register handler).run t).2
      | .error e => (.error e, ((register handler).run t).2) := by
  change StateT.run (m := Id) (match ((register handler).run t).1 with
    | .ok () => registerEach register rest
    | .error e => pure (.error e)) ((register handler).run t).2 = _
  cases ((register handler).run t).1 <;> rfl

/-- Holds of what there was before and after some handlers were registered, one after the other, none of them
refused. -/
inductive Accepted (register : Handler σ → StateM τ (Except Error Unit)) : τ → List (Handler σ) → τ → Prop where
  | nil (t : τ) : Accepted register t [] t
  | cons {before between after : τ} {handler : Handler σ} {rest : List (Handler σ)}
      (haccepted : (register handler).run before = (.ok (), between))
      (hrest : Accepted register between rest after) : Accepted register before (handler :: rest) after

/-- Handlers are registered up to the first that is refused, whose error is the result. None behind it is
tried. -/
theorem registerEach_cases (register : Handler σ → StateM τ (Except Error Unit)) (handlers : List (Handler σ))
    (t : τ) :
    (∃ after, Accepted register t handlers after ∧
      (registerEach register handlers).run t = (.ok (), after)) ∨
    ∃ accepted refused rest before e after, handlers = accepted ++ refused :: rest ∧
      Accepted register t accepted before ∧ (register refused).run before = (.error e, after) ∧
      (registerEach register handlers).run t = (.error e, after) := by
  induction handlers generalizing t with
  | nil => exact .inl ⟨t, .nil t, rfl⟩
  | cons handler rest ih =>
    rw [registerEach_cons_run]
    cases hfirst : (register handler).run t with
    | mk answer between =>
      cases answer with
      | error e => exact .inr ⟨[], handler, rest, t, e, between, rfl, .nil t, hfirst, rfl⟩
      | ok =>
        obtain ⟨after, haccepted, hrun⟩ | ⟨accepted, refused, later, before, e, after, rfl, haccepted, hrun⟩ :=
          ih between
        · exact .inl ⟨after, .cons hfirst haccepted, hrun⟩
        · exact .inr ⟨handler :: accepted, refused, later, before, e, after, rfl, .cons hfirst haccepted, hrun⟩

end Handler

namespace Registrar

variable {c : Type} {r : Registrar c} {event : String}

theorem register_refused (hrefused : r.refuses = some event) (callback : c) :
    (register event callback).run r = (.error (.notRegistered event "refused"), r) :=
  if_pos hrefused

theorem register_accepted (haccepted : r.refuses ≠ some event) (callback : c) :
    (register event callback).run r = (.ok (), { r with
      callbacks := r.callbacks.on event callback
      registered := r.registered ++ [event] }) :=
  if_neg haccepted

theorem refuses_of_error {callback : c} {e : Error} {after : Registrar c}
    (hrefused : (register event callback).run r = (.error e, after)) :
    r.refuses = some event ∧ e = .notRegistered event "refused" ∧ after = r := by
  by_cases hrefuses : r.refuses = some event
  · rw [register_refused hrefuses] at hrefused
    cases hrefused
    exact ⟨hrefuses, rfl, rfl⟩
  · rw [register_accepted hrefuses] at hrefused
    cases hrefused

/-- Holds of a registrar before and after one callback for each of some events was registered. -/
structure Gains (r : Registrar c) (callback : EventKind → c) (kinds : List EventKind) (after : Registrar c) :
    Prop where
  registered : after.registered = r.registered ++ kinds.map EventKind.name
  forEvent : ∀ event, after.callbacks.forEvent event =
    r.callbacks.forEvent event ++ (kinds.filter fun kind => kind.name = event).map callback
  refuses : after.refuses = r.refuses
  accepted : ∀ kind ∈ kinds, r.refuses ≠ some kind.name

variable {σ : Type} {callback : EventKind → c}

theorem gains_of_accepted {handlers : List (Handler σ)} {after : Registrar c}
    (haccepted : Handler.Accepted (fun h => register h.kind.name (callback h.kind)) r handlers after) :
    r.Gains callback (handlers.map Handler.kind) after := by
  induction haccepted with
  | nil r => exact ⟨by simp, by simp, rfl, nofun⟩
  | @cons before between after handler rest hfirst hrest ih =>
    by_cases hrefused : before.refuses = some handler.kind.name
    · rw [register_refused hrefused] at hfirst
      cases hfirst
    · rw [register_accepted hrefused] at hfirst
      cases hfirst
      obtain ⟨hregistered, hforEvent, hrefuses, hnone⟩ := ih
      refine ⟨?_, fun event => ?_, hrefuses, ?_⟩
      · simp [hregistered]
      · rw [hforEvent, Callbacks.forEvent_on, List.append_assoc, List.map_cons, List.filter_cons]
        by_cases hname : handler.kind.name = event <;> simp [hname]
      · rw [List.map_cons, List.forall_mem_cons]
        exact ⟨hrefused, hnone⟩

end Registrar
end UptimeSync
