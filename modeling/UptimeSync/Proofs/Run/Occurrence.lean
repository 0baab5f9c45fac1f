import UptimeSync.Proofs.History.Step
import UptimeSync.Proofs.Run.Register

namespace UptimeSync

theorem SeenEvents.has_mark (seen : SeenEvents) (marked name : String) :
    (seen.mark marked).has name = (seen.has name || marked == name) := by
  rw [has, mark, Std.ExtTreeSet.contains_insert, has, Bool.or_comm]
  congr 1
  rw [Bool.eq_iff_iff, beq_iff_eq, beq_iff_eq]
  exact Std.LawfulEqCmp.compare_eq_iff_eq

theorem EventKind.isPresent_get {α : Type} (r : Received α) : isPresent r.get = r.isSet := by
  cases r <;> rfl

/-- Asking a shelf for the heartbeats of a monitor that has none tells whether anything was ever put on
the shelf. -/
theorem Shelf.isPresent_read_open (shelf : Shelf) (c : Store.Contents) (monitorId : Int64) :
    EventKind.isPresent (shelf.read ⟨some c⟩ monitorId) = (shelf.buffers c).isSet := by
  rw [shelf.read_open]
  cases (shelf.buffers c).isSet with
  | false => rfl
  | true => cases shelf.buffer? c monitorId <;> rfl

namespace StoreWrite

def fills (shelf : Shelf) : StoreWrite → Bool
  | history write => write.reaches shelf
  | _ => false

def marks (name : String) : StoreWrite → Bool
  | mark marked => marked == name
  | _ => false

theorem isSet_buffers_apply (write : StoreWrite) (c : Store.Contents) (shelf : Shelf) :
    (shelf.buffers (write.apply c)).isSet = ((shelf.buffers c).isSet || write.fills shelf) := by
  cases write with
  | history write =>
    obtain ⟨after, hwritten, -, hshelves⟩ := write.step c
    rw [write.access_eq_write, Access.on_write_open] at hwritten
    cases hwritten
    exact (hshelves shelf).1
  | _ => cases shelf <;> exact (Bool.or_false _).symm

theorem has_seen_apply (write : StoreWrite) (c : Store.Contents) (name : String) :
    (write.apply c).seen.has name = (c.seen.has name || write.marks name) := by
  cases write with
  | mark marked => exact c.seen.has_mark marked name
  | history write =>
    rw [apply, write.apply_frame]
    exact (Bool.or_false _).symm
  | _ => exact (Bool.or_false _).symm

end StoreWrite

namespace EventKind

/-- Holds of the writes after which an event counts as occurred. -/
def raisedBy (kind : EventKind) (write : StoreWrite) : Bool :=
  match kind with
  | connect => (Register.connected.written? write).isSome
  | disconnect | message | error | monitorList => write.marks kind.name
  | info => (Register.info.written? write).isSome
  | heartbeat => write.fills .general || write.fills .important
  | heartbeatList => write.fills .general
  | importantHeartbeatList => write.fills .important
  | autoLogin => (Register.autoLogin.written? write).isSome

/-- A write makes some events occur, and it makes no event not have occurred. -/
theorem occurred_apply (kind : EventKind) (write : StoreWrite) (c : Store.Contents) :
    kind.occurred ⟨some (write.apply c)⟩ = (kind.occurred ⟨some c⟩ || kind.raisedBy write) := by
  have hregister {α : Type} (register : Register α) :
      isPresent (register.read (write.apply c)).get =
        (isPresent (register.read c).get || (register.written? write).isSome) := by
    rw [isPresent_get, isPresent_get, register.isSet_apply]
  have hshelf (shelf : Shelf) :
      isPresent (shelf.read ⟨some (write.apply c)⟩ 0) =
        (isPresent (shelf.read ⟨some c⟩ 0) || write.fills shelf) := by
    rw [shelf.isPresent_read_open, shelf.isPresent_read_open, write.isSet_buffers_apply]
  cases kind with
  | connect => exact hregister .connected
  | info => exact hregister .info
  | autoLogin => exact hregister .autoLogin
  | disconnect | message | error | monitorList => exact write.has_seen_apply c _
  | heartbeatList => exact hshelf .general
  | importantHeartbeatList => exact hshelf .important
  | heartbeat =>
    have hboth (s : Store) : heartbeat.occurred s =
        (isPresent (Shelf.general.read s 0) || isPresent (Shelf.important.read s 0)) := rfl
    rw [hboth, hboth, hshelf .general, hshelf .important, raisedBy]
    ac_rfl

theorem occurred_applyAll (kind : EventKind) (writes : List StoreWrite) (c : Store.Contents) :
    kind.occurred ⟨some (StoreWrite.applyAll writes c)⟩ =
      (kind.occurred ⟨some c⟩ || writes.any kind.raisedBy) := by
  induction writes generalizing c with
  | nil => exact (Bool.or_false _).symm
  | cons write rest ih =>
    change kind.occurred ⟨some (StoreWrite.applyAll rest (write.apply c))⟩ = _
    rw [ih, occurred_apply, List.any_cons, Bool.or_assoc]

end EventKind

namespace Operation

/-- Holds of the operations that bring heartbeats to a shelf. A single heartbeat goes where its status
sends it. -/
def Fills (shelf : Shelf) : Operation → Prop
  | event .heartbeat args =>
    ∃ beat, EventKind.heartbeat.payload (Wire.readValue Heartbeat.ofJson ∘ Json.object) args =
      .ok beat ∧ Shelf.ofBeat beat = shelf
  | event .heartbeatList _ => .general = shelf
  | event .importantHeartbeatList _ => .important = shelf
  | write (.history w) => w.reaches shelf
  | _ => False

/-- Holds of the operations that make an event occur if they succeed. The connection counts as made
also when it is lost. -/
def Signals (kind : EventKind) (op : Operation) : Prop :=
  match kind with
  | .connect =>
    (∃ args, op = event .connect args) ∨ (∃ args, op = event .disconnect args) ∨
      ∃ b, op = write (.connected b)
  | .disconnect | .message | .error | .monitorList =>
    (∃ args, op = event kind args) ∨ op = write (.mark kind.name)
  | .info => (∃ args, op = event .info args) ∨ ∃ i, op = write (.info i)
  | .autoLogin => (∃ args, op = event .autoLogin args) ∨ ∃ b, op = write (.autoLogin b)
  | .heartbeat => op.Fills .general ∨ op.Fills .important
  | .heartbeatList => op.Fills .general
  | .importantHeartbeatList => op.Fills .important

theorem fills_event {received : EventKind} {args : List Json} {writes : List StoreWrite}
    (hwrites : received.writes args = .ok writes) (shelf : Shelf) :
    (event received args).Fills shelf ↔ writes.any (·.fills shelf) = true := by
  cases received with
  | connect | disconnect | message | error | autoLogin =>
    cases hwrites
    simp [Fills, StoreWrite.fills]
  | heartbeat =>
    obtain ⟨beat, hbeat, hwritten⟩ := Except.bind_eq_ok.mp hwrites
    cases hwritten
    simp [Fills, StoreWrite.fills, HeartbeatWrite.reaches, hbeat]
  | info | heartbeatList | importantHeartbeatList | monitorList =>
    obtain ⟨payload, -, hwritten⟩ := Except.bind_eq_ok.mp hwrites
    cases hwritten
    simp [Fills, StoreWrite.fills, HeartbeatWrite.reaches]

theorem fills_write (w : StoreWrite) (shelf : Shelf) : (write w).Fills shelf ↔ w.fills shelf = true := by
  cases w <;> simp [Fills, StoreWrite.fills]

theorem signals_event {received : EventKind} {args : List Json} {writes : List StoreWrite}
    (hwrites : received.writes args = .ok writes) (kind : EventKind) :
    (event received args).Signals kind ↔ writes.any kind.raisedBy = true := by
  cases kind with
  | heartbeatList => exact fills_event hwrites .general
  | importantHeartbeatList => exact fills_event hwrites .important
  | heartbeat =>
    change (event received args).Fills .general ∨ (event received args).Fills .important ↔ _
    rw [fills_event hwrites, fills_event hwrites]
    simp [EventKind.raisedBy, and_or_left, exists_or]
  | _ =>
    cases received with
    | connect | disconnect | message | error | autoLogin =>
      cases hwrites
      simp [Signals, EventKind.raisedBy, EventKind.name, Register.connected, Register.info,
        Register.autoLogin, StoreWrite.marks]
    | _ =>
      obtain ⟨payload, -, hwritten⟩ := Except.bind_eq_ok.mp hwrites
      cases hwritten
      simp [Signals, EventKind.raisedBy, EventKind.name, Register.connected, Register.info,
        Register.autoLogin, StoreWrite.marks]

theorem signals_write (w : StoreWrite) (kind : EventKind) :
    (write w).Signals kind ↔ kind.raisedBy w = true := by
  cases kind with
  | heartbeatList => exact fills_write w .general
  | importantHeartbeatList => exact fills_write w .important
  | heartbeat =>
    change (write w).Fills .general ∨ (write w).Fills .important ↔ _
    rw [fills_write, fills_write, ← Bool.or_eq_true]
    rfl
  | _ =>
    cases w <;> simp [Signals, EventKind.raisedBy, Register.connected, Register.info, Register.autoLogin,
      StoreWrite.marks]

theorem not_signals_action {σ : Type} (a : Action) (e : Emitter σ) (x : σ) (kind : EventKind) :
    ¬ (action a e x).Signals kind := by
  cases kind <;> simp [Signals, Fills]

theorem not_raisedBy_action (a : Action) (answer : Answer) (kind : EventKind) :
    (a.writes answer).any kind.raisedBy = false := by
  unfold Action.writes
  split <;> cases kind <;> rfl

/-- An operation makes an event occur if it succeeds and signals it. It makes none not have occurred. -/
theorem occurred_on (op : Operation) (c : Store.Contents) (kind : EventKind) :
    kind.occurred (op.on ⟨some c⟩).2 = true ↔
      kind.occurred ⟨some c⟩ = true ∨ (op.on ⟨some c⟩).1.isOk = true ∧ op.Signals kind := by
  rw [op.on_open, kind.occurred_applyAll, Bool.or_eq_true]
  refine or_congr_right ?_
  -- What is left is that the writes of a deed raise the event just where it signals it.
  cases hanswer : (op.on ⟨some c⟩).1 with
  | error e =>
    constructor
    · intro hraised
      cases hraised
    · rintro ⟨hok, -⟩
      cases hok
  | ok answer =>
    refine Iff.trans (Iff.symm ?_) (and_iff_right rfl).symm
    cases op with
    | event received args =>
      obtain ⟨writes, hwrites⟩ := writes_of_event_ok hanswer
      rw [Deed.writes, hwrites]
      exact signals_event hwrites kind
    | write w =>
      rw [Deed.writes, List.any_cons, List.any_nil, Bool.or_false]
      exact signals_write w kind
    | action a e x =>
      rw [Deed.writes, not_raisedBy_action]
      exact iff_of_false (not_signals_action a e x kind) Bool.false_ne_true

end Operation

namespace Store

theorem occurred_after_open (c : Contents) (operations : List Operation) (kind : EventKind) :
    kind.occurred ((⟨some c⟩ : Store).after operations) = true ↔
      kind.occurred ⟨some c⟩ = true ∨
        ∃ deed ∈ (⟨some c⟩ : Store).deeds operations,
          deed.answer.isOk = true ∧ deed.operation.Signals kind := by
  induction operations generalizing c with
  | nil => simp [after, deeds]
  | cons op rest ih =>
    have hfirst := op.occurred_on c kind
    have hleft := op.on_open c
    rw [after, List.foldl_cons, deeds]
    change kind.occurred ((op.on ⟨some c⟩).2.after rest) = true ↔ _
    rw [hleft] at hfirst ⊢
    simp only [ih, hfirst, or_assoc, List.mem_cons, exists_eq_or_imp]

/-- After any run of operations on an initially empty store an event has occurred just if an operation
that signals it succeeded. A caller's write always does, except one to a monitor that is not there. Once an
event has occurred it stays so, whatever is done to the store next. -/
theorem occurred_after_run (retention : Retention) (operations later : List Operation)
    (kind : EventKind) :
    let s := (Store.empty retention).after operations
    (kind.occurred s = true ↔
      ∃ deed ∈ (Store.empty retention).deeds operations,
        deed.answer.isOk = true ∧ deed.operation.Signals kind) ∧
    (∀ w : StoreWrite, ((Operation.write w).on s).1.isOk = w.target?.all fun id => (s.monitor id).isOk) ∧
    (kind.occurred s = true → kind.occurred (s.after later) = true) := by
  intro s
  refine ⟨?_, isOk_write_after retention operations, ?_⟩
  · have hnever : kind.occurred (Store.empty retention) = false := by
      cases kind <;> rfl
    have hrun := occurred_after_open { retention } operations kind
    rw [or_iff_right] at hrun
    · exact hrun
    · intro hever
      have hempty : kind.occurred (Store.empty retention) = true := hever
      rw [hnever] at hempty
      cases hempty
  · intro hoccurred
    have hopen : s = ⟨some (StoreWrite.applyAll _ { retention })⟩ :=
      Store.after_empty retention operations
    rw [hopen] at hoccurred ⊢
    exact (occurred_after_open _ later kind).mpr (.inl hoccurred)

end Store
end UptimeSync
