import UptimeSync.Proofs.Run.Operation

namespace UptimeSync

namespace Store

/-- Changes the monitor under a key by a function that may have effects of its own. -/
def updateMonitorWith {m : Type → Type} [Monad m] (id : Int64) (f : Monitor → m Monitor) (s : Store) :
    m (Except Error Unit × Store) :=
  let found : Except Error (Contents × IdMap Monitor × Monitor) := do
    let c ← s.contents
    let table ← c.monitors.get
    let monitor ← entry "monitor" table id
    return (c, table, monitor)
  match found with
  | .error e => pure (.error e, s)
  | .ok (c, table, monitor) => do
    let changed ← f monitor
    return (.ok (), ⟨some { c with monitors := .value (table.insert id changed) }⟩)

/-- A function without effects changes the monitor as it does in the store. -/
theorem updateMonitorWith_pure (id : Int64) (f : Monitor → Monitor) (s : Store) :
    updateMonitorWith (m := Id) id f s = (updateMonitor id f).on s := by
  obtain ⟨contents?⟩ := s
  cases contents? with
  | none => rfl
  | some c =>
    rw [updateMonitor, Access.on_update_open, updateMonitorWith]
    cases hmonitors : c.monitors with
    | notYet =>
      simp only [Store.contents, hmonitors, Received.get, bind, Except.bind]
      rfl
    | value table =>
      cases hentry : entry "monitor" table id <;>
        simp [Store.contents, hmonitors, hentry, Received.get, bind, Except.bind, pure, Except.pure]

end Store

def StoreWrite.isMark : StoreWrite → Bool
  | mark _ => true
  | _ => false

/-- Holds of a store that gives nothing, takes nothing, and stays as it is. -/
structure Store.Inert (s : Store) : Prop where
  closed : s.isClosed = true
  connected : s.connected = .error .storeClosed
  loggedIn : s.loggedIn = .error .storeClosed
  autoLogin : s.autoLogin = .error .storeClosed
  info : s.info = .error .storeClosed
  settings : s.settings = .error .storeClosed
  monitors : s.monitors = .error .storeClosed
  monitor (id : Int64) : s.monitor id = .error .storeClosed
  tags : s.tags = .error .storeClosed
  tag (id : Int64) : s.tag id = .error .storeClosed
  heartbeats (id : Int64) : s.heartbeats id = .error .storeClosed
  importantHeartbeats (id : Int64) : s.importantHeartbeats id = .error .storeClosed
  write (write : StoreWrite) :
    write.access.on s = (if write.isMark then .ok () else .error .storeClosed, s)
  /-- Whatever the function that changes a monitor would do, it is not called. -/
  update {m : Type → Type} [Monad m] (id : Int64) (f : Monitor → m Monitor) :
    updateMonitorWith id f s = pure (.error .storeClosed, s)
  unseen (name : String) : s.hasSeen name = false
  unoccurred (kind : EventKind) : kind.occurred s = false
  handle (kind : EventKind) (args : List Json) : ∃ result, (kind.handle args).on s = (result, s) ∧
    if kind = .message ∨ kind = .error then result = .ok () else ∃ e, result = .error e

theorem Store.unoccurred_detached (kind : EventKind) : kind.occurred detached = false := by
  cases kind <;> rfl

theorem StoreWrite.on_detached (write : StoreWrite) :
    write.access.on .detached = (if write.isMark then .ok () else .error .storeClosed, .detached) := by
  cases write with
  | history write =>
    rw [access, HeartbeatWrite.access_eq_write]
    rfl
  | _ => rfl

theorem Access.lift_bind_detached {α : Type} (x : Except Error α) {op : α → Access Unit}
    (hop : ∀ a, (op a).on .detached = (.error .storeClosed, .detached)) :
    ∃ e, on (liftM x >>= op) .detached = (.error e, .detached) := by
  rw [on_lift_bind]
  cases x with
  | ok a => exact ⟨_, hop a⟩
  | error e => exact ⟨e, rfl⟩

theorem EventKind.handle_detached (kind : EventKind) (args : List Json) :
    ∃ result, (kind.handle args).on .detached = (result, .detached) ∧
      if kind = .message ∨ kind = .error then result = .ok () else ∃ e, result = .error e := by
  have hrefused {op : Access Unit} (hop : ∃ e, op.on .detached = (.error e, .detached)) :
      ∃ result, op.on .detached = (result, .detached) ∧ ∃ e : Error, result = .error e := by
    obtain ⟨e, he⟩ := hop
    exact ⟨.error e, he, e, rfl⟩
  cases kind with
  | message | error => exact ⟨.ok (), rfl, rfl⟩
  | connect | disconnect | autoLogin => exact hrefused ⟨.storeClosed, rfl⟩
  | info | heartbeat | heartbeatList | importantHeartbeatList | monitorList =>
    exact hrefused (Access.lift_bind_detached _ fun _ => rfl)

theorem Store.inert_detached : detached.Inert where
  closed := rfl
  connected := rfl
  loggedIn := rfl
  autoLogin := rfl
  info := rfl
  settings := rfl
  monitors := rfl
  monitor _ := rfl
  tags := rfl
  tag _ := rfl
  heartbeats _ := rfl
  importantHeartbeats _ := rfl
  write := StoreWrite.on_detached
  update _ _ := rfl
  unseen _ := rfl
  unoccurred := unoccurred_detached
  handle := EventKind.handle_detached

theorem Operation.on_detached (op : Operation) : (op.on .detached).2 = .detached := by
  cases op with
  | event kind args =>
    obtain ⟨result, hhandled, -⟩ := kind.handle_detached args
    rw [on, hhandled]
  | write write => rw [on, write.on_detached]
  | action a e x =>
    have hending : a.Ending .detached _ _ _ := a.ends e .detached x
    rw [on]
    generalize a.program.carriedOut e ⟨.detached, x, []⟩ = run at hending ⊢
    obtain ⟨result, store, state, steps⟩ := run
    cases hending with
    | made _ hopen => cases hopen
    | _ => rfl

/-- Something that is done with a handle of a store. All handles of a store share its contents. -/
inductive StoreUse : Type 1 where
  | operation (op : Operation)
  | close

namespace StoreUse

def on : StoreUse → Store → Store
  | operation op, s => (op.on s).2
  | close, s => s.close

theorem on_detached (use : StoreUse) : use.on .detached = .detached := by
  cases use with
  | operation op => exact op.on_detached
  | close => rfl

end StoreUse

def Store.through (s : Store) (uses : List StoreUse) : Store :=
  uses.foldl (fun s use => use.on s) s

theorem Store.through_detached (uses : List StoreUse) : detached.through uses = detached := by
  induction uses with
  | nil => rfl
  | cons use rest ih =>
    rw [through, List.foldl_cons, use.on_detached]
    exact ih

end UptimeSync
