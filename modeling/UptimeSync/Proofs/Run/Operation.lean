import UptimeSync.Event.Handler
import UptimeSync.Proofs.Action.Ending
import UptimeSync.Proofs.Event.Atomic
import UptimeSync.Proofs.Results
import UptimeSync.Proofs.Run.Write

namespace UptimeSync

/-- The writes by which an event is taken into the store, if its arguments can be read. -/
def EventKind.writes (kind : EventKind) (args : List Json) : Except Error (List StoreWrite) :=
  match kind with
  | connect => .ok [.connected true]
  | disconnect => .ok [.connected false, .mark kind.name]
  | message | error => .ok [.mark kind.name]
  | info => do
    let info ← kind.payload (Wire.readValue Info.ofJson ∘ Json.object) args
    return [.info info]
  | heartbeat => do
    let beat ← kind.payload (Wire.readValue Heartbeat.ofJson ∘ Json.object) args
    return [.history (.append beat)]
  | heartbeatList => do
    let (monitorId, beats, overwrite) ← kind.heartbeatBatch args
    return [.history (.set .general monitorId beats overwrite)]
  | importantHeartbeatList => do
    let (monitorId, beats, overwrite) ← kind.heartbeatBatch args
    return [.history (.set .important monitorId beats overwrite)]
  | autoLogin => .ok [.autoLogin true]
  | monitorList => do
    let table ← kind.payload (Wire.readTable Monitor.ofJson) args
    return [.monitors table, .mark kind.name]

/-- The writes of an action that has given an answer. -/
def Action.writes (a : Action) (answer : Answer) : List StoreWrite :=
  match a, answer with
  | login .., _ | loginByToken _, _ => [.loggedIn true]
  | logout, _ => [.loggedIn false]
  | getTags, .tags tags => [.tags tags]
  | addTag .., .tag t | editTag _, .tag t => [.tag t]
  | deleteTag id, _ => [.dropTag id]
  | addMonitor m, .id id => [.monitor { m with id }]
  | editMonitor m, _ => [.monitor m]
  | deleteMonitor id, _ => [.dropMonitor id, .history (.clear id)]
  | pauseMonitor id, _ => [.changeMonitor id fun m => { m with active := false }]
  | resumeMonitor id, _ => [.changeMonitor id fun m => { m with active := true }]
  | clearHeartbeats id, _ => [.history (.clear id)]
  | getSettings, .settings settings => [.settings settings]
  | setSettings settings _, _ => [.settings settings]
  | _, _ => []

/-- Something that is done with a store: an event is handled, a caller writes, or an action is carried
out over some emitter. An action does not touch the store while it waits, so that what happens
meanwhile comes before it. -/
inductive Operation : Type 1 where
  | event (kind : EventKind) (args : List Json)
  | write (write : StoreWrite)
  | action {σ : Type} (a : Action) (e : Emitter σ) (x : σ)

/-- What an operation answers on a store, and the store that it leaves. -/
def Operation.on (op : Operation) (s : Store) : Except Error Answer × Store :=
  match op with
  | event kind args => (((kind.handle args).on s).1.map fun _ => .nothing, ((kind.handle args).on s).2)
  | write w => ((w.access.on s).1.map fun _ => .nothing, (w.access.on s).2)
  | action a e x =>
    let run := a.program.carriedOut e ⟨s, x, []⟩
    (run.1, run.2.store)

/-- An operation that has been done, and what it answered. -/
structure Deed : Type 1 where
  operation : Operation
  answer : Except Error Answer

/-- The writes of a deed. One that failed has written nothing. -/
def Deed.writes : Deed → List StoreWrite
  | ⟨_, .error _⟩ => []
  | ⟨.event kind args, .ok _⟩ => (kind.writes args).toOption.getD []
  | ⟨.write w, .ok _⟩ => [w]
  | ⟨.action a .., .ok answer⟩ => a.writes answer

namespace Store

def after (s : Store) (operations : List Operation) : Store :=
  operations.foldl (fun s op => (op.on s).2) s

def deeds (s : Store) : List Operation → List Deed
  | [] => []
  | op :: rest => ⟨op, (op.on s).1⟩ :: (op.on s).2.deeds rest

def writes (s : Store) (operations : List Operation) : List StoreWrite :=
  (s.deeds operations).flatMap Deed.writes

end Store

/-- An event whose arguments can be read makes its writes on an open store; any other fails. -/
theorem EventKind.handle_open (kind : EventKind) (args : List Json) (c : Store.Contents) :
    (kind.handle args).on ⟨some c⟩ =
      match kind.writes args with
      | .ok writes => (.ok (), ⟨some (StoreWrite.applyAll writes c)⟩)
      | .error e => (.error e, ⟨some c⟩) := by
  cases kind with
  | connect | disconnect | message | error | autoLogin => rfl
  | info =>
    rw [handle, writes, Access.on_lift_bind]
    cases info.payload (Wire.readValue Info.ofJson ∘ Json.object) args <;> rfl
  | heartbeat =>
    rw [handle, writes, Access.on_lift_bind]
    cases heartbeat.payload (Wire.readValue Heartbeat.ofJson ∘ Json.object) args with
    | error e => rfl
    | ok beat =>
      change (HeartbeatWrite.append beat).access.on ⟨some c⟩ = _
      rw [HeartbeatWrite.access_eq_write]
      rfl
  | heartbeatList =>
    rw [handle, writes, Access.on_lift_bind]
    cases heartbeatList.heartbeatBatch args <;> rfl
  | importantHeartbeatList =>
    rw [handle, writes, Access.on_lift_bind]
    cases importantHeartbeatList.heartbeatBatch args <;> rfl
  | monitorList =>
    rw [handle, writes, Access.on_lift_bind]
    cases monitorList.payload (Wire.readTable Monitor.ofJson) args <;> rfl

namespace Action

variable {a : Action} {answer : Answer} {changes : List Change}

theorem writes_of_settle {body : Wire.Entries} (hsettle : a.settle body = .ok (answer, changes)) :
    a.writes answer = changes.map Change.write := by
  cases a with
  | prepareTwoFactor | addTag | editTag | addMonitor | getSettings =>
    obtain ⟨field, -, hanswer⟩ := Option.elim_error_eq_ok.mp hsettle
    cases hanswer
    rfl
  | _ =>
    cases hsettle
    rfl

theorem writes_of_judge {raw : Json} (hjudge : a.judge raw = .ok (answer, changes)) :
    a.writes answer = changes.map Change.write := by
  cases a with
  | logout =>
    have hsettle : logout.settle ⟨[]⟩ = .ok (answer, changes) := hjudge
    exact writes_of_settle hsettle
  | needSetup =>
    cases hflag : Reply.decode needSetup.name Json.exactFlag raw with
    | error e =>
      rw [judge, hflag] at hjudge
      cases hjudge
    | ok b =>
      rw [judge, hflag] at hjudge
      cases hjudge
      rfl
  | _ =>
    obtain ⟨body, -, hsettle⟩ := Except.bind_eq_ok.mp hjudge
    exact writes_of_settle hsettle

theorem Granted.writes_eq {steps : List Course.Step} (hgranted : a.Granted steps answer changes) :
    a.writes answer = changes.map Change.write := by
  cases hgranted with
  | acknowledged hverdict hattended hjudge => exact writes_of_judge hjudge
  | announced hunattended =>
    cases a with
    | login => rfl
    | _ => cases hunattended

theorem Ending.store_of_ok {c : Store.Contents} {left : Store} {steps : List Course.Step}
    (hending : a.Ending ⟨some c⟩ (.ok answer) left steps) :
    left = ⟨some (StoreWrite.applyAll (a.writes answer) c)⟩ := by
  cases hending with
  | made hgranted hopen =>
    cases hopen
    rw [hgranted.writes_eq, Change.applyAll_eq_writes]
  | idle _ hclosed => cases hclosed

end Action

namespace Operation

/-- An operation that fails leaves the store as it was. -/
theorem on_of_error {op : Operation} {s : Store} {e : Error} (hfailed : (op.on s).1 = .error e) :
    (op.on s).2 = s := by
  cases op with
  | event kind args =>
    cases hhandled : ((kind.handle args).on s).1 with
    | ok => simp [on, hhandled, Except.map] at hfailed
    | error err => exact kind.handle_atomic args s _ err (Prod.ext hhandled rfl)
  | write w =>
    cases hwritten : (w.access.on s).1 with
    | ok => simp [on, hwritten, Except.map] at hfailed
    | error err => exact w.access_atomic s _ err (Prod.ext hwritten rfl)
  | action a e x =>
    have hends := a.ends e s x
    have hresult : (a.program.carriedOut e ⟨s, x, []⟩).1 = .error _ := hfailed
    rw [Action.Ends, hresult] at hends
    exact hends.store_of_error

theorem writes_of_event_ok {kind : EventKind} {args : List Json} {c : Store.Contents} {answer : Answer}
    (hanswer : ((event kind args).on ⟨some c⟩).1 = .ok answer) :
    ∃ writes, kind.writes args = .ok writes := by
  have hhandled := kind.handle_open args c
  cases hwrites : kind.writes args with
  | ok writes => exact ⟨writes, rfl⟩
  | error e =>
    rw [hwrites] at hhandled
    rw [on, hhandled] at hanswer
    cases hanswer

/-- On an open store an operation makes its writes, one after the other, and nothing else. -/
theorem on_open (op : Operation) (c : Store.Contents) :
    (op.on ⟨some c⟩).2 =
      ⟨some (StoreWrite.applyAll (Deed.writes ⟨op, (op.on ⟨some c⟩).1⟩) c)⟩ := by
  cases hanswer : (op.on ⟨some c⟩).1 with
  | error e => exact on_of_error hanswer
  | ok answer =>
    cases op with
    | event kind args =>
      obtain ⟨writes, hwrites⟩ := writes_of_event_ok hanswer
      have hhandled := kind.handle_open args c
      rw [hwrites] at hhandled
      rw [on, hhandled, Deed.writes, hwrites]
      rfl
    | write w => exact w.access_open c
    | action a e x =>
      have hends := a.ends e ⟨some c⟩ x
      have hresult : (a.program.carriedOut e ⟨⟨some c⟩, x, []⟩).1 = .ok answer := hanswer
      rw [Action.Ends, hresult] at hends
      exact hends.store_of_ok

end Operation

/-- A run of operations leaves an open store open, and its contents are what the writes of the run make
of them. -/
theorem Store.after_open (c : Store.Contents) (operations : List Operation) :
    (⟨some c⟩ : Store).after operations =
      ⟨some (StoreWrite.applyAll ((⟨some c⟩ : Store).writes operations) c)⟩ := by
  induction operations generalizing c with
  | nil => rfl
  | cons op rest ih =>
    rw [after, List.foldl_cons, op.on_open c, writes, deeds, List.flatMap_cons, StoreWrite.applyAll_append,
      op.on_open c]
    exact ih _

theorem Store.after_empty (retention : Retention) (operations : List Operation) :
    (Store.empty retention).after operations =
      ⟨some (StoreWrite.applyAll ((Store.empty retention).writes operations) { retention })⟩ :=
  after_open _ operations

/-- A caller's write succeeds at the end of any run, except one to a monitor that is not there. -/
theorem Store.isOk_write_after (retention : Retention) (operations : List Operation) (write : StoreWrite) :
    let s := (Store.empty retention).after operations
    ((Operation.write write).on s).1.isOk = write.target?.all fun id => (s.monitor id).isOk := by
  intro s
  have hopen : s = ⟨some (StoreWrite.applyAll ((Store.empty retention).writes operations) { retention })⟩ :=
    after_empty retention operations
  rw [hopen, ← write.isOk_access_open]
  change (Except.map _ (write.access.on _).1).isOk = _
  cases (write.access.on _).1 <;> rfl

end UptimeSync
