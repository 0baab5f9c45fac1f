import UptimeSync.Proofs.Event.Arguments
import UptimeSync.Proofs.History.Step
import UptimeSync.Proofs.Wire.Reading

namespace UptimeSync

/-- What a shelf answers after a write that adds heartbeats to the ones of a monitor. -/
theorem HeartbeatWrite.read_of_batch {write : HeartbeatWrite} {shelf : Shelf} {monitorId : Int64}
    {beats : List Heartbeat} (hreaches : write.reaches shelf = true)
    (hdelivery : write.delivery? shelf monitorId = some (.batch beats)) (c : Store.Contents) :
    shelf.read (write.access.on ⟨some c⟩).2 monitorId =
      .ok (((shelf.buffer? c monitorId).getD [] ++ beats).rtake (shelf.capacity c.retention)) :=
  read_of_delivery hreaches hdelivery c

/-- A write of what was read before succeeds on an open store just if it could be read. -/
theorem HeartbeatWrite.lift_ok_iff {α : Type} (x : Except Error α) (write : α → HeartbeatWrite)
    (c : Store.Contents) :
    ((liftM x >>= fun a => (write a).access : Access Unit).on ⟨some c⟩).1 = .ok () ↔ ∃ a, x = .ok a := by
  rw [Access.on_lift_bind]
  cases x with
  | error err => exact ⟨nofun, nofun⟩
  | ok a =>
    obtain ⟨after, hwrite, -⟩ := (write a).step c
    simp [hwrite]

namespace EventKind

variable {c : Store.Contents} {owner v : Json} {monitorId : Int64} {beat : Heartbeat}

theorem heartbeat_payload_eq_ok :
    heartbeat.payload (Wire.readValue Heartbeat.ofJson ∘ Json.object) [v] = .ok beat ↔
      (∃ members, v = .object members) ∧ Heartbeat.ofJson v = .ok beat := by
  rw [payload_eq_ok]
  constructor
  · rintro ⟨members, hv, hread⟩
    obtain rfl : v = .object members := by simpa using hv
    exact ⟨⟨members, rfl⟩, Wire.readValue_eq_ok.mp hread⟩
  · rintro ⟨⟨members, rfl⟩, hread⟩
    exact ⟨members, rfl, Wire.readValue_eq_ok.mpr hread⟩

theorem readList_singleton_eq_ok {beats : List Heartbeat} :
    Wire.readList Heartbeat.ofJson [v] = .ok beats ↔
      ∃ beat, Heartbeat.ofJson v = .ok beat ∧ beats = [beat] := by
  rw [Wire.readList, List.mapM_cons]
  simp only [Except.bind_eq_ok, Wire.readValue_eq_ok]
  constructor
  · rintro ⟨beat, hbeat, _, ⟨⟩, ⟨⟩⟩
    exact ⟨beat, hbeat, rfl⟩
  · rintro ⟨beat, hbeat, rfl⟩
    exact ⟨beat, hbeat, [], rfl, rfl⟩

theorem heartbeatBatch_singleton_eq_ok (howner : owner.looseInt = .ok monitorId)
    {batch : Int64 × List Heartbeat × Bool} :
    heartbeatList.heartbeatBatch [owner, .array [v]] = .ok batch ↔
      ∃ beat, Heartbeat.ofJson v = .ok beat ∧ batch = (monitorId, [beat], false) := by
  have hnull : Json.null.looseFlag = .ok false := rfl
  obtain ⟨id, beats, overwrite⟩ := batch
  rw [heartbeatBatch_eq_ok]
  constructor
  · rintro ⟨⟨_, ⟨⟩, hid⟩, ⟨_, ⟨⟩, hbeats⟩, hflag⟩
    obtain ⟨beat, hbeat, rfl⟩ := readList_singleton_eq_ok.mp hbeats
    rw [howner] at hid
    cases hid
    cases hflag
    exact ⟨beat, hbeat, rfl⟩
  · rintro ⟨beat, hbeat, heq⟩
    cases heq
    exact ⟨⟨owner, rfl, howner⟩, ⟨[v], rfl, readList_singleton_eq_ok.mpr ⟨beat, hbeat, rfl⟩⟩, hnull⟩

theorem live_ok_iff :
    ((heartbeat.handle [v]).on ⟨some c⟩).1 = .ok () ↔
      (∃ members, v = .object members) ∧ ∃ beat, Heartbeat.ofJson v = .ok beat := by
  have hwrite := HeartbeatWrite.lift_ok_iff
    (heartbeat.payload (Wire.readValue Heartbeat.ofJson ∘ Json.object) [v]) .append c
  refine hwrite.trans ?_
  simp only [heartbeat_payload_eq_ok, exists_and_left]

theorem bulk_ok_iff (howner : owner.looseInt = .ok monitorId) :
    ((heartbeatList.handle [owner, .array [v]]).on ⟨some c⟩).1 = .ok () ↔
      ∃ beat, Heartbeat.ofJson v = .ok beat := by
  have hwrite := HeartbeatWrite.lift_ok_iff (heartbeatList.heartbeatBatch [owner, .array [v]])
    (fun batch => .set .general batch.1 batch.2.1 batch.2.2) c
  refine hwrite.trans ?_
  simp only [heartbeatBatch_singleton_eq_ok howner]
  exact ⟨fun ⟨_, beat, hread, _⟩ => ⟨beat, hread⟩, fun ⟨beat, hread⟩ => ⟨_, beat, hread, rfl⟩⟩

/-- A heartbeat that comes live is added to the heartbeats. -/
theorem on_live (hobject : ∃ members, v = .object members) (hread : Heartbeat.ofJson v = .ok beat)
    (s : Store) :
    (heartbeat.handle [v]).on s = (HeartbeatWrite.append beat).access.on s := by
  rw [handle, heartbeat_payload_eq_ok.mpr ⟨hobject, hread⟩]
  rfl

theorem on_bulk (howner : owner.looseInt = .ok monitorId) (hread : Heartbeat.ofJson v = .ok beat) (s : Store) :
    (heartbeatList.handle [owner, .array [v]]).on s =
      (HeartbeatWrite.set .general monitorId [beat] false).access.on s := by
  rw [handle, (heartbeatBatch_singleton_eq_ok howner).mpr ⟨beat, hread, rfl⟩]
  rfl

/-- What is read as a heartbeat is an object, or else an array of a heartbeat's fields. -/
theorem heartbeat_shape : (∃ beat, Heartbeat.ofJson v = .ok beat) ↔
    ((∃ members, v = .object members) ∧ ∃ beat, Heartbeat.ofJson v = .ok beat) ∨
      Heartbeat.schema.Positional v := by
  have hread : (∃ beat, Heartbeat.ofJson v = .ok beat) ↔ ∃ e, Heartbeat.schema.read v = .ok e :=
    Except.exists_map_eq_ok Heartbeat.ofEntries
  rw [hread, Wire.Schema.read_eq_ok_iff]
  refine or_congr_left ⟨?_, ?_⟩
  · rintro ⟨members, rfl, hmembers⟩
    exact ⟨⟨members, rfl⟩, .inl ⟨members, rfl, hmembers⟩⟩
  · rintro ⟨⟨members, rfl⟩, ⟨_, ⟨⟩, hmembers⟩ | ⟨_, ⟨⟩, -⟩⟩
    exact ⟨members, rfl, hmembers⟩

/-- A heartbeat is taken in when it comes live just if it is when it comes in a list, and is stored alike but
for the monitor, which the list names. An array of a heartbeat's fields is the exception: it is taken in from a
list only. -/
theorem bulk_agrees_with_live (howner : owner.looseInt = .ok monitorId) (c : Store.Contents) (v : Json) :
    let live := (heartbeat.handle [v]).on ⟨some c⟩
    let bulk := (heartbeatList.handle [owner, .array [v]]).on ⟨some c⟩
    (¬Heartbeat.schema.Positional v → (bulk.1 = .ok () ↔ live.1 = .ok ())) ∧
    (Heartbeat.schema.Positional v →
      bulk.1 = .ok () ∧ live = (.error (.wrongArgument "object" "array"), ⟨some c⟩)) ∧
    (live.1 = .ok () → bulk.1 = .ok () → ∃ beat, Heartbeat.ofJson v = .ok beat ∧
      let shelf := Shelf.ofBeat beat
      shelf.read live.2 beat.monitorId =
        .ok (((shelf.buffer? c beat.monitorId).getD [] ++ [beat]).rtake (shelf.capacity c.retention)) ∧
      Shelf.general.read bulk.2 monitorId =
        .ok (((Shelf.general.buffer? c monitorId).getD [] ++ [{ beat with monitorId }]).rtake
          (Shelf.general.capacity c.retention))) := by
  intro live bulk
  refine ⟨fun hnamed => ?_, fun hpositional => ⟨?_, ?_⟩, fun haccepted _ => ?_⟩
  · rw [live_ok_iff, bulk_ok_iff howner]
    exact heartbeat_shape.trans (or_iff_left hnamed)
  · exact (bulk_ok_iff howner).mpr (heartbeat_shape.mpr (.inr hpositional))
  · obtain ⟨items, rfl, -⟩ := hpositional
    rfl
  · obtain ⟨hobject, beat, hread⟩ := live_ok_iff.mp haccepted
    have hlive : live = (HeartbeatWrite.append beat).access.on ⟨some c⟩ := on_live hobject hread _
    have hbulk : bulk = (HeartbeatWrite.set .general monitorId [beat] false).access.on ⟨some c⟩ :=
      on_bulk howner hread _
    rw [hlive, hbulk]
    refine ⟨beat, hread, ?_, ?_⟩
    · have hreaches : (HeartbeatWrite.append beat).reaches (Shelf.ofBeat beat) = true := by
        simp [HeartbeatWrite.reaches]
      exact HeartbeatWrite.read_of_batch hreaches (by simp [HeartbeatWrite.delivery?]) c
    · exact HeartbeatWrite.read_of_batch rfl (by simp [HeartbeatWrite.delivery?]) c

/-- A live heartbeat of one monitor is taken in as one of another monitor from a list. -/
theorem bulk_agrees_on_object :
    let v := Json.object [("monitorId", .ofInt64 3)]
    let live := (heartbeat.handle [v]).on (.empty {})
    let bulk := (heartbeatList.handle [.string " 7 ", .array [v]]).on (.empty {})
    (bulk.1 = .ok () ↔ live.1 = .ok ()) ∧
      Shelf.general.read live.2 3 = .ok [{ monitorId := 3 }] ∧
      Shelf.general.read bulk.2 7 = .ok [{ monitorId := 7 }] := by
  intro v live bulk
  have howner : (Json.string " 7 ").looseInt = .ok 7 := Except.toOption_eq_some.mp (by decide +kernel)
  obtain ⟨hagree, -, hstored⟩ := bulk_agrees_with_live howner {} v
  have hboth := hagree fun ⟨_, hitems, _⟩ => nomatch hitems
  have hlive : live.1 = .ok () := rfl
  obtain ⟨beat, hread, hlast, hlisted⟩ := hstored hlive (hboth.mpr hlive)
  obtain rfl : { monitorId := 3 } = beat := Except.ok.inj hread
  exact ⟨hboth, hlast, hlisted⟩

/-- An array of the first two fields of a heartbeat is refused live, and becomes a heartbeat of the monitor
whose list it stands in. -/
theorem bulk_accepts_positional_heartbeat :
    let positional := Json.array [.ofInt64 1, .ofInt64 2]
    let live := (heartbeat.handle [positional]).on (.empty {})
    let bulk := (heartbeatList.handle [.ofInt64 7, .array [positional]]).on (.empty {})
    live = (.error (.wrongArgument "object" "array"), .empty {}) ∧ bulk.1 = .ok () ∧
      Shelf.general.read bulk.2 7 = .ok [{ downCount := 1, duration := 2, monitorId := 7 }] :=
  ⟨rfl, rfl, rfl⟩

end EventKind
end UptimeSync
