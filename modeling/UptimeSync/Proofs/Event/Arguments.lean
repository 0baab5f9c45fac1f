import UptimeSync.Event.Handler
import UptimeSync.Proofs.Wire.Refusal

namespace UptimeSync.EventKind

theorem argument_eq_ok {kind : EventKind} {args : List Json} {index : Nat} {v : Json} :
    kind.argument args index = .ok v ↔ args[index]? = some v := by
  rw [argument]
  cases args[index]? <;> simp

theorem expectObject_eq_ok {v : Json} {members : Json.Members} :
    expectObject v = .ok members ↔ v = .object members := by
  cases v <;> simp [expectObject]

theorem expectArray_eq_ok {v : Json} {items : List Json} :
    expectArray v = .ok items ↔ v = .array items := by
  cases v <;> simp [expectArray]

theorem reading_eq_ok {α : Type} {kind : EventKind} {result : Except ReadError α} {a : α} :
    kind.reading result = .ok a ↔ result = .ok a :=
  Except.mapError_eq_ok

theorem payload_eq_ok {α : Type} {kind : EventKind} {read : Json.Members → Except ReadError α}
    {args : List Json} {a : α} :
    kind.payload read args = .ok a ↔ ∃ members, args[0]? = some (.object members) ∧ read members = .ok a := by
  simp only [payload, Except.bind_eq_ok, argument_eq_ok, expectObject_eq_ok, reading_eq_ok,
    exists_eq_right]

/-- What the arguments of an event are if a batch of heartbeats can be read off them. -/
theorem heartbeatBatch_eq_ok {kind : EventKind} {args : List Json} {monitorId : Int64}
    {beats : List Heartbeat} {overwrite : Bool} :
    kind.heartbeatBatch args = .ok (monitorId, beats, overwrite) ↔
      (∃ owner, args[0]? = some owner ∧ owner.looseInt = .ok monitorId) ∧
      (∃ items, args[1]? = some (.array items) ∧ Wire.readList Heartbeat.ofJson items = .ok beats) ∧
      (args[2]?.getD Json.null).looseFlag = .ok overwrite := by
  simp only [heartbeatBatch, Except.bind_eq_ok, argument_eq_ok, expectArray_eq_ok, reading_eq_ok,
    Wire.readValue_eq_ok, exists_eq_right]
  constructor
  · rintro ⟨owner, howner, items, hitems, _, hid, _, hflag, _, hbeats, ⟨⟩⟩
    exact ⟨⟨owner, howner, hid⟩, ⟨items, hitems, hbeats⟩, hflag⟩
  · rintro ⟨⟨owner, howner, hid⟩, ⟨items, hitems, hbeats⟩, hflag⟩
    exact ⟨owner, howner, items, hitems, monitorId, hid, overwrite, hflag, beats, hbeats, rfl⟩

end UptimeSync.EventKind
