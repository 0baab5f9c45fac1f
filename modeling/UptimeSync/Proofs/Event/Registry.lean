import Mathlib.Data.Finset.Card
import UptimeSync.Proofs.Event.Registration

namespace UptimeSync

/-- A callback that was given to a registrar for an event, and what the registrar answered. -/
structure Registration where
  event : String
  callback : EventCallback
  answer : Except Error Unit

namespace Registration

variable {τ : Type}

/-- A registrar that keeps a record of what it is given. -/
def recording (on : String → EventCallback → StateM τ (Except Error Unit)) (event : String)
    (callback : EventCallback) : StateM (τ × List Registration) (Except Error Unit) :=
  fun (t, before) =>
    let (answer, t) := (on event callback).run t
    (answer, t, before ++ [⟨event, callback, answer⟩])

/-- A handler that was registered with some answer. -/
def ofHandler (answer : Except Error Unit) (h : Handler Nat) : Registration :=
  ⟨h.kind.name, h.callback, answer⟩

end Registration

namespace Registry

variable {σ τ : Type}

/-- Registers the handlers of a registry with a registrar. -/
def registerWith (r : Registry Nat) (on : String → EventCallback → StateM τ (Except Error Unit)) :
    StateM τ (Except Error Unit) :=
  r.registerAll fun h => on h.kind.name h.callback

/-- What a registrar is given when the handlers of a registry are registered with it. -/
def registrations (r : Registry Nat) (on : String → EventCallback → StateM τ (Except Error Unit)) (t : τ) :
    List Registration :=
  ((r.registerWith (Registration.recording on)).run (t, [])).2.2

theorem get?_insert (r : Registry σ) (handler : Handler σ) (kind : EventKind) :
    (r.insert handler).get? kind = if handler.kind = kind then some handler else r.get? kind := by
  rw [get?, insert]
  by_cases hkind : handler.kind = kind
  · subst hkind
    simp
  · simp [hkind, Ne.symm hkind, get?]

/-- Of several handlers for one kind the last one is kept. -/
theorem get?_ofList (handlers : List (Handler σ)) (kind : EventKind) :
    (ofList handlers).get? kind = handlers.reverse.find? fun h => h.kind = kind := by
  induction handlers using List.reverseRecOn with
  | nil => rfl
  | append_singleton earlier last ih =>
    have hinsert : ofList (earlier ++ [last]) = (ofList earlier).insert last :=
      List.foldl_concat _ _ _ _
    rw [hinsert, get?_insert, ih, List.reverse_append, List.reverse_singleton, List.singleton_append,
      List.find?_cons]
    by_cases hkind : last.kind = kind <;> simp [hkind]

theorem get?_ofList_eq_none {handlers : List (Handler σ)} {kind : EventKind} :
    (ofList handlers).get? kind = none ↔ kind ∉ handlers.map Handler.kind := by
  rw [get?_ofList, List.find?_eq_none]
  simp

theorem exists_get_eq_error {r : Registry σ} {kind : EventKind} :
    (∃ missing, r.get kind = .error missing) ↔ r.get? kind = none := by
  rw [get]
  cases r.get? kind <;> simp

theorem kind_of_get? {r : Registry σ} {kind : EventKind} {h : Handler σ} (hget : r.get? kind = some h) :
    h.kind = kind := by
  obtain ⟨store, -, rfl⟩ := Option.map_eq_some_iff.mp hget
  rfl

theorem get?_of_mem_handlers {r : Registry σ} {h : Handler σ} (hmem : h ∈ r.handlers) : r.get? h.kind = some h := by
  obtain ⟨kind, -, hget⟩ := List.mem_filterMap.mp hmem
  rw [kind_of_get? hget, hget]

theorem map_kind_handlers (r : Registry σ) :
    r.handlers.map Handler.kind = EventKind.all.filter fun kind => (r.get? kind).isSome := by
  rw [handlers, List.map_filterMap, ← List.filterMap_eq_filter]
  refine List.filterMap_congr fun kind _ => ?_
  cases hget : r.get? kind with
  | none => simp [Option.guard, hget]
  | some h => simp [Option.guard, hget, kind_of_get? hget]

theorem map_kind_handlers_ofList (handlers : List (Handler σ)) :
    (ofList handlers).handlers.map Handler.kind =
      EventKind.all.filter fun kind => kind ∈ handlers.map Handler.kind := by
  rw [map_kind_handlers]
  refine List.filter_congr fun kind _ => ?_
  rw [Bool.eq_iff_iff, decide_eq_true_iff, Option.isSome_iff_ne_none, Ne, get?_ofList_eq_none, not_not]

/-- There are as many handlers in a registry as there were kinds in its list. -/
theorem size_ofList (handlers : List (Handler σ)) :
    (ofList handlers).size = (handlers.map Handler.kind).toFinset.card := by
  have hall : EventKind.all.Nodup := by decide
  have hkinds : (EventKind.all.filter fun kind => kind ∈ handlers.map Handler.kind).toFinset =
      (handlers.map Handler.kind).toFinset := by
    ext kind
    simp [EventKind.mem_all]
  rw [size, ← List.length_map Handler.kind, map_kind_handlers_ofList, ← hkinds,
    List.toFinset_card_of_nodup (hall.filter _)]

end Registry

namespace Registration

variable {τ : Type} (on : String → EventCallback → StateM τ (Except Error Unit))

/-- That a record is kept does not show in what the registrar answers. -/
theorem registerEach_recording (handlers : List (Handler Nat)) (t : τ) (before : List Registration) :
    ((Handler.registerEach (fun h => recording on h.kind.name h.callback) handlers).run (t, before)).1 =
      ((Handler.registerEach (fun h => on h.kind.name h.callback) handlers).run t).1 := by
  induction handlers generalizing t before with
  | nil => rfl
  | cons handler rest ih =>
    rw [Handler.registerEach_cons_run, Handler.registerEach_cons_run]
    have hanswer (t : τ) (before : List Registration) :
        ((recording on handler.kind.name handler.callback).run (t, before)).1 =
          ((on handler.kind.name handler.callback).run t).1 := rfl
    rw [hanswer]
    cases ((on handler.kind.name handler.callback).run t).1 with
    | error e => rfl
    | ok => exact ih _ _

variable {on}

theorem recorded_of_run {h : Handler Nat} {start after : τ × List Registration} {answer : Except Error Unit}
    (hrun : (recording on h.kind.name h.callback).run start = (answer, after)) :
    after.2 = start.2 ++ [ofHandler answer h] := by
  have hanswer : ((on h.kind.name h.callback).run start.1).1 = answer := congrArg Prod.fst hrun
  have hafter : start.2 ++ [ofHandler ((on h.kind.name h.callback).run start.1).1 h] = after.2 :=
    congrArg (·.2.2) hrun
  rw [← hafter, hanswer]

theorem recorded_of_accepted {handlers : List (Handler Nat)} {start after : τ × List Registration}
    (haccepted : Handler.Accepted (fun h => recording on h.kind.name h.callback) start handlers after) :
    after.2 = start.2 ++ handlers.map (ofHandler (.ok ())) := by
  induction haccepted with
  | nil => exact (List.append_nil _).symm
  | cons hfirst _ ih => rw [ih, recorded_of_run hfirst, List.append_assoc, List.map_cons, List.singleton_append]

end Registration

namespace Registry

variable {τ : Type} (r : Registry Nat) (on : String → EventCallback → StateM τ (Except Error Unit)) (t : τ)

/-- The registrar is given the handlers in their order, up to and including the first that it refuses. -/
theorem registrations_cases :
    let result := ((r.registerWith on).run t).1
    (result = .ok () ∧ r.registrations on t = r.handlers.map (.ofHandler (.ok ()))) ∨
    ∃ accepted refused rest e, r.handlers = accepted ++ refused :: rest ∧ result = .error e ∧
      r.registrations on t = accepted.map (.ofHandler (.ok ())) ++ [.ofHandler (.error e) refused] := by
  intro result
  have hresult : ((r.registerWith (Registration.recording on)).run (t, [])).1 = result :=
    Registration.registerEach_recording on r.handlers t []
  obtain ⟨after, haccepted, hrun⟩ | ⟨accepted, refused, rest, before, e, after, hhandlers, haccepted, hrefused, hrun⟩ :=
    Handler.registerEach_cases (fun h => Registration.recording on h.kind.name h.callback) r.handlers (t, [])
  · have hregistered : (r.registerWith (Registration.recording on)).run (t, []) = (.ok (), after) := hrun
    rw [← hresult, registrations, hregistered, Registration.recorded_of_accepted haccepted]
    exact .inl ⟨rfl, rfl⟩
  · have hregistered : (r.registerWith (Registration.recording on)).run (t, []) = (.error e, after) := hrun
    refine .inr ⟨accepted, refused, rest, e, hhandlers, ?_, ?_⟩
    · rw [← hresult, hregistered]
    · rw [registrations, hregistered, Registration.recorded_of_run hrefused,
        Registration.recorded_of_accepted haccepted, List.nil_append]

/-- There is one registration for each kind, in the order of the kinds, and none after one that was refused. -/
theorem registrations_in_order :
    let result := ((r.registerWith on).run t).1
    let calls := r.registrations on t
    ∃ called rest, r.handlers.map Handler.kind = called ++ rest ∧
      calls.map Registration.event = called.map EventKind.name ∧
      ((rest = [] ∧ result = .ok () ∧ ∀ call ∈ calls, call.answer = .ok ()) ∨
        ∃ accepted refused e, calls = accepted ++ [refused] ∧ (∀ call ∈ accepted, call.answer = .ok ()) ∧
          refused.answer = .error e ∧ result = .error e) := by
  intro result calls
  obtain ⟨hresult, hcalls⟩ | ⟨accepted, refused, rest, e, hhandlers, hresult, hcalls⟩ :=
    r.registrations_cases on t
  · refine ⟨r.handlers.map Handler.kind, [], (List.append_nil _).symm, ?_, .inl ⟨rfl, hresult, ?_⟩⟩
    · simp [calls, hcalls, Registration.ofHandler]
    · simp [calls, hcalls, Registration.ofHandler]
  · refine ⟨(accepted ++ [refused]).map Handler.kind, rest.map Handler.kind, ?_, ?_,
      .inr ⟨_, _, e, hcalls, ?_, rfl, hresult⟩⟩
    · rw [hhandlers, ← List.map_append, List.append_assoc, List.singleton_append]
    · simp [calls, hcalls, Registration.ofHandler]
    · simp [Registration.ofHandler]

theorem mem_handlers_of_mem_registrations {call : Registration} (hcall : call ∈ r.registrations on t) :
    ∃ h ∈ r.handlers, call.event = h.kind.name ∧ call.callback = h.callback := by
  obtain ⟨-, hcalls⟩ | ⟨accepted, refused, rest, e, hhandlers, -, hcalls⟩ := r.registrations_cases on t
  · rw [hcalls] at hcall
    obtain ⟨h, hmem, rfl⟩ := List.mem_map.mp hcall
    exact ⟨h, hmem, rfl, rfl⟩
  · rw [hcalls, List.mem_append, List.mem_singleton] at hcall
    rw [hhandlers]
    obtain hcall | rfl := hcall
    · obtain ⟨h, hmem, rfl⟩ := List.mem_map.mp hcall
      exact ⟨h, List.mem_append_left _ hmem, rfl, rfl⟩
    · exact ⟨refused, List.mem_append_right _ List.mem_cons_self, rfl, rfl⟩

/-- A handler takes an event into its own store and into no other. -/
theorem run_callback {h : Handler Nat} {stores : List Store} {s : Store} (hstore : stores[h.store]? = some s)
    (args : List Json) :
    (h.callback args).run stores =
      (((h.kind.handle args).on s).1, stores.set h.store ((h.kind.handle args).on s).2) := by
  change Access.onOne h.store (h.kind.handle args) stores = _
  rw [Access.onOne, hstore]

end Registry

/-- What a registry makes of any list of handlers, and what it does with a registrar that takes and refuses as it
likes. Of several handlers for a kind the last one is kept. The registrar is given one callback for each kind, in
the order of all kinds, until it refuses one; the refusal is the result. A callback does what the kept handler of
its event does with its own store. -/
theorem Registry.of_handlers (handlers : List (Handler Nat)) :
    let r := Registry.ofList handlers
    let kinds := handlers.map Handler.kind
    (∀ kind, r.get? kind = handlers.reverse.find? fun h => h.kind = kind) ∧
    r.size = kinds.toFinset.card ∧
    (∀ kind, (∃ missing, r.get kind = .error missing) ↔ kind ∉ kinds) ∧
    ∀ {τ : Type} (on : String → EventCallback → StateM τ (Except Error Unit)) (t : τ),
      let result := ((r.registerWith on).run t).1
      let calls := r.registrations on t
      (∃ called rest, (EventKind.all.filter fun kind => kind ∈ kinds) = called ++ rest ∧
        calls.map Registration.event = called.map EventKind.name ∧
        ((rest = [] ∧ result = .ok () ∧ ∀ call ∈ calls, call.answer = .ok ()) ∨
          ∃ accepted refused e, calls = accepted ++ [refused] ∧ (∀ call ∈ accepted, call.answer = .ok ()) ∧
            refused.answer = .error e ∧ result = .error e)) ∧
      ∀ call ∈ calls, ∃ h, r.get? h.kind = some h ∧ call.event = h.kind.name ∧
        ∀ (args : List Json) (stores : List Store) (s : Store), stores[h.store]? = some s →
          (call.callback args).run stores =
            (((h.kind.handle args).on s).1, stores.set h.store ((h.kind.handle args).on s).2) := by
  intro r kinds
  refine ⟨get?_ofList handlers, size_ofList handlers, fun kind => ?_, fun on t => ⟨?_, fun call hcall => ?_⟩⟩
  · exact exists_get_eq_error.trans get?_ofList_eq_none
  · rw [← map_kind_handlers_ofList]
    exact r.registrations_in_order on t
  · obtain ⟨h, hmem, hevent, hcallback⟩ := r.mem_handlers_of_mem_registrations on t hcall
    refine ⟨h, get?_of_mem_handlers hmem, hevent, fun args stores s hstore => ?_⟩
    rw [hcallback]
    exact run_callback hstore args

/-- Of two handlers for one kind the second is registered, and behind the one for a kind that comes earlier. Where
it is refused, the other one is in place. -/
theorem Registry.of_repeated_kind :
    let r := Registry.ofList [⟨.info, 0⟩, ⟨.info, 2⟩, ⟨.connect, 1⟩]
    let on (event : String) (_ : EventCallback) : StateM Unit (Except Error Unit) :=
      pure (if event = "info" then .error .connectionClosed else .ok ())
    let stores := [.empty {}, .empty {}, .detached]
    r.get? .info = some ⟨.info, 2⟩ ∧ ((r.registerWith on).run ()).1 = .error .connectionClosed ∧
      ∃ call ∈ r.registrations on (), call.answer = .ok () ∧ ∀ args, (call.callback args).run stores =
        (((EventKind.connect.handle args).on (.empty {})).1,
          stores.set 1 ((EventKind.connect.handle args).on (.empty {})).2) := by
  intro r on stores
  obtain ⟨hget, -, -, hregister⟩ := Registry.of_handlers [⟨.info, 0⟩, ⟨.info, 2⟩, ⟨.connect, 1⟩]
  obtain ⟨-, hcallbacks⟩ := hregister on ()
  have hcalls : r.registrations on () =
      [.ofHandler (.ok ()) ⟨.connect, 1⟩, .ofHandler (.error .connectionClosed) ⟨.info, 2⟩] := rfl
  refine ⟨hget .info, rfl, .ofHandler (.ok ()) ⟨.connect, 1⟩, ?_, rfl, fun args => ?_⟩
  · rw [hcalls]
    exact List.mem_cons_self
  · obtain ⟨h, hkept, hevent, hrun⟩ := hcallbacks (.ofHandler (.ok ()) ⟨.connect, 1⟩) List.mem_cons_self
    have hkind : EventKind.ofName? "connect" = some h.kind := EventKind.ofName?_eq_some.mpr hevent.symm
    have hconnect : EventKind.connect = h.kind := Option.some.inj hkind
    rw [← hconnect] at hkept
    obtain rfl : ⟨.connect, 1⟩ = h := Option.some.inj hkept
    exact hrun args stores (.empty {}) rfl

end UptimeSync
