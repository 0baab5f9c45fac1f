import UptimeSync.Proofs.Event.Arguments
import UptimeSync.Proofs.Store.Access

namespace UptimeSync.EventKind

/-- An event that brings many records at once, of which one cannot be read, or that does not say
properly whose heartbeats it brings and whether they replace the ones before them. Everything else
about the event may be in order. -/
inductive Spoilt : EventKind → List Json → Prop where
  | entry {members : Json.Members} {entry : String × Json} {rest : List Json}
      (hentry : entry ∈ members) (hbad : Wire.BadEntry Monitor.ofJson entry) :
      Spoilt monitorList (.object members :: rest)
  | beat {kind : EventKind} {owner : Json} {items rest : List Json} {v : Json} {fault : Fault}
      (hkind : kind = heartbeatList ∨ kind = importantHeartbeatList)
      (hv : v ∈ items) (hbad : Heartbeat.ofJson v = .error fault) :
      Spoilt kind (owner :: .array items :: rest)
  | owner {kind : EventKind} {v : Json} {rest : List Json} {fault : Fault}
      (hkind : kind = heartbeatList ∨ kind = importantHeartbeatList)
      (hbad : v.looseInt = .error fault) : Spoilt kind (v :: rest)
  | overwrite {kind : EventKind} {owner items v : Json} {rest : List Json} {fault : Fault}
      (hkind : kind = heartbeatList ∨ kind = importantHeartbeatList)
      (hbad : v.looseFlag = .error fault) : Spoilt kind (owner :: items :: v :: rest)

/-- Every handler reads all of its arguments before it writes, and writes at once. -/
theorem handle_atomic (kind : EventKind) (args : List Json) : (kind.handle args).Atomic := by
  cases kind with
  | connect => exact .write _
  | disconnect => exact .write _
  | message => exact .markSeen _
  | error => exact .markSeen _
  | info => exact .lift_bind _ fun _ => .write _
  | heartbeat => exact .lift_bind _ fun _ => .write _
  | heartbeatList => exact .lift_bind _ fun _ => .write _
  | importantHeartbeatList => exact .lift_bind _ fun _ => .write _
  | autoLogin => exact .write _
  | monitorList => exact .lift_bind _ fun _ => .write _

theorem Spoilt.payload_ne_ok {args : List Json} (hspoilt : Spoilt monitorList args)
    (table : IdMap Monitor) : monitorList.payload (Wire.readTable Monitor.ofJson) args ≠ .ok table := by
  intro hread
  obtain ⟨members, hmembers, htable⟩ := payload_eq_ok.mp hread
  cases hspoilt with
  | entry hentry hbad =>
    cases hmembers
    exact Wire.not_bad_of_readTable htable _ hentry hbad
  | beat hkind => cases hkind <;> contradiction
  | owner hkind => cases hkind <;> contradiction
  | overwrite hkind => cases hkind <;> contradiction

theorem Spoilt.heartbeatBatch_ne_ok {kind : EventKind} {args : List Json} (hspoilt : kind.Spoilt args)
    (hkind : kind ≠ monitorList) (batch : Int64 × List Heartbeat × Bool) :
    kind.heartbeatBatch args ≠ .ok batch := by
  intro hread
  obtain ⟨⟨owner, howner, hid⟩, ⟨items, hitems, hbeats⟩, hflag⟩ := heartbeatBatch_eq_ok.mp hread
  cases hspoilt with
  | entry => exact hkind rfl
  | beat _ hv hbad =>
    cases hitems
    obtain ⟨beat, hbeat⟩ := Wire.exists_of_readList hbeats _ hv
    rw [hbad] at hbeat
    cases hbeat
  | owner _ hbad =>
    cases howner
    rw [hbad] at hid
    cases hid
  | overwrite _ hbad =>
    rw [List.getElem?_cons_succ, List.getElem?_cons_succ, List.getElem?_cons_zero, Option.getD_some,
      hbad] at hflag
    cases hflag

theorem Spoilt.kind_cases {kind : EventKind} {args : List Json} (hspoilt : kind.Spoilt args) :
    kind = monitorList ∨ kind = heartbeatList ∨ kind = importantHeartbeatList := by
  cases hspoilt with
  | entry => exact .inl rfl
  | beat hkind => exact .inr hkind
  | owner hkind => exact .inr hkind
  | overwrite hkind => exact .inr hkind

/-- A spoilt event is refused as a whole, also by a closed store, and the store is not touched. -/
theorem Spoilt.refused {kind : EventKind} {args : List Json} (hspoilt : kind.Spoilt args) (s : Store) :
    ∃ e, (kind.handle args).on s = (.error e, s) := by
  obtain rfl | rfl | rfl := hspoilt.kind_cases
  · obtain ⟨e, hread⟩ := Except.exists_error_of_ne_ok hspoilt.payload_ne_ok
    refine ⟨e, ?_⟩
    rw [handle, hread]
    rfl
  · obtain ⟨e, hread⟩ := Except.exists_error_of_ne_ok (hspoilt.heartbeatBatch_ne_ok nofun)
    refine ⟨e, ?_⟩
    rw [handle, hread]
    rfl
  · obtain ⟨e, hread⟩ := Except.exists_error_of_ne_ok (hspoilt.heartbeatBatch_ne_ok nofun)
    refine ⟨e, ?_⟩
    rw [handle, hread]
    rfl

/-- Handling an event is all or nothing. An event that is not handled leaves every field of the store
as it was, so that the answers to which events have occurred stay the same too. This is what happens to
a list of any length of which one entry cannot be read. -/
theorem handle_all_or_nothing (s : Store) (kind : EventKind) (args : List Json) :
    (∀ e after, (kind.handle args).on s = (.error e, after) →
      after = s ∧ ∀ other : EventKind, other.occurred after = other.occurred s) ∧
    (kind.Spoilt args → ∃ e, (kind.handle args).on s = (.error e, s)) := by
  refine ⟨fun e after hfail => ?_, fun hspoilt => hspoilt.refused s⟩
  obtain rfl := handle_atomic kind args s after e hfail
  exact ⟨rfl, fun _ => rfl⟩

/-- A table whose second key is no identifier leaves the store without the first monitor too. -/
theorem handle_table_with_bad_key :
    ∃ e, (monitorList.handle [.object [("1", .object []), ("one", .object [])]]).on (Store.empty {}) =
        (.error e, Store.empty {}) ∧
      ∀ other : EventKind, other.occurred
        ((monitorList.handle [.object [("1", .object []), ("one", .object [])]]).on (Store.empty {})).2 =
          other.occurred (Store.empty {}) := by
  have hspoilt : monitorList.Spoilt [.object [("1", .object []), ("one", .object [])]] :=
    .entry (.tail _ (.head _)) (.inl ⟨.badKey "one", rfl⟩)
  obtain ⟨e, hrefused⟩ := (handle_all_or_nothing (Store.empty {}) _ _).2 hspoilt
  exact ⟨e, hrefused, ((handle_all_or_nothing _ _ _).1 e _ (Prod.ext (congrArg Prod.fst hrefused) rfl)).2⟩

end UptimeSync.EventKind
