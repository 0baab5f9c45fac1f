import UptimeSync.Proofs.History.Writes
import UptimeSync.Proofs.Store.Queue

namespace UptimeSync

namespace Buffers

/-- Adding the newest heartbeat of a monitor delivers a batch of one to that monitor alone. -/
theorem getElem?_append (buffers : Buffers) (beat : Heartbeat) (capacity : Nat) (monitorId : Int64) :
    ((buffers.append beat capacity)[monitorId]?).map Queue.toList =
      if beat.monitorId = monitorId then
        Delivery.deliver capacity (buffers[monitorId]?.map Queue.toList) (.batch [beat])
      else buffers[monitorId]?.map Queue.toList := by
  rw [append, IdMap.getElem?_insert]
  by_cases hid : beat.monitorId = monitorId
  · simp only [hid, reduceIte, Option.map_some, Delivery.deliver, queue, Queue.toList_trim_eq_rtake]
    cases buffers[monitorId]? <;> rfl
  · simp [hid]

/-- Taking in a batch delivers it to its monitor alone, as a window if it overwrites. -/
theorem getElem?_merge (buffers : Buffers) (owner : Int64) (beats : List Heartbeat)
    (overwrite : Bool) (capacity : Nat) (monitorId : Int64) :
    ((buffers.merge owner beats overwrite capacity)[monitorId]?).map Queue.toList =
      if owner = monitorId then
        let owned := beats.map fun beat => { beat with monitorId := owner }
        Delivery.deliver capacity (buffers[monitorId]?.map Queue.toList)
          (if overwrite then .window owned else .batch owned)
      else buffers[monitorId]?.map Queue.toList := by
  rw [merge, IdMap.getElem?_insert]
  by_cases hid : owner = monitorId
  · subst owner
    cases overwrite with
    | true => simp [Delivery.deliver, Queue.replace]
    | false =>
      simp only [reduceIte, Bool.false_eq_true, Option.map_some, Delivery.deliver, Option.some.injEq,
        Queue.toList_trim]
      have hpushed := Queue.toList_foldl_push (buffers.queue monitorId)
        (beats.map fun beat => { beat with monitorId })
      have hbefore : (buffers.queue monitorId).toList =
          (buffers[monitorId]?.map Queue.toList).getD [] := by
        rw [queue]
        cases buffers[monitorId]? <;> rfl
      rw [← hbefore, ← hpushed]
      rfl
  · simp [hid]

end Buffers

/-- What an open store answers about the heartbeats of a monitor. -/
theorem Shelf.read_open (shelf : Shelf) (c : Store.Contents) (monitorId : Int64) :
    shelf.read ⟨some c⟩ monitorId =
      if (shelf.buffers c).isSet then
        (shelf.buffer? c monitorId).elim (.error (.notFound shelf.label monitorId)) .ok
      else .error .notSetYet := by
  have hread : shelf.read ⟨some c⟩ monitorId =
      Store.snapshot shelf.label (shelf.buffers c) monitorId := by
    cases shelf <;> rfl
  rw [hread, Shelf.buffer?]
  cases shelf.buffers c with
  | notYet => rfl
  | value buffers =>
    rw [Received.find?_value, Received.isSet, if_pos rfl]
    cases hqueue : buffers[monitorId]? with
    | none => simp [Store.snapshot, Received.get, hqueue, bind, Except.bind]
    | some queue => simp [Store.snapshot, Received.get, hqueue, bind, Except.bind]

/-- Exchanging the buffers of one shelf for others that differ by one delivery to one monitor changes
that buffer by the delivery and no other buffer on either shelf. -/
theorem Shelf.buffer?_put {target : Shelf} {c : Store.Contents} {buffers : Buffers} {owner : Int64}
    {delivered : Delivery Heartbeat}
    (hbuffers : ∀ monitorId, (buffers[monitorId]?).map Queue.toList =
      if owner = monitorId then
        Delivery.deliver (target.capacity c.retention) (target.buffer? c monitorId) delivered
      else target.buffer? c monitorId) (shelf : Shelf) (monitorId : Int64) :
    shelf.buffer? (target.put buffers c) monitorId =
      if target = shelf ∧ owner = monitorId then
        Delivery.deliver (shelf.capacity c.retention) (shelf.buffer? c monitorId) delivered
      else shelf.buffer? c monitorId := by
  rw [Shelf.buffer?, Shelf.buffers_put]
  by_cases htarget : target = shelf
  · subst shelf
    simp only [reduceIte, true_and]
    exact hbuffers monitorId
  · simp only [htarget, reduceIte, false_and]
    rfl

/-- A write to an open store succeeds. It makes the shelf it reaches, and it changes the buffer of a
monitor by what it delivers to it and no other buffer. -/
theorem HeartbeatWrite.step (write : HeartbeatWrite) (c : Store.Contents) :
    ∃ after : Store.Contents, write.access.on ⟨some c⟩ = (.ok (), ⟨some after⟩) ∧
      after.retention = c.retention ∧
      ∀ shelf : Shelf,
        (shelf.buffers after).isSet = ((shelf.buffers c).isSet || write.reaches shelf) ∧
        ∀ monitorId, shelf.buffer? after monitorId =
          (write.delivery? shelf monitorId).elim (shelf.buffer? c monitorId)
            (Delivery.deliver (shelf.capacity c.retention) (shelf.buffer? c monitorId)) := by
  cases write with
  | append beat =>
    rw [access_append]
    refine ⟨_, Access.on_write_open _ c, Shelf.retention_put .., fun shelf => ⟨?_, fun monitorId => ?_⟩⟩
    · rw [Shelf.buffers_put, reaches]
      by_cases htarget : Shelf.ofBeat beat = shelf <;> simp [htarget, Received.isSet]
    · rw [Shelf.buffer?_put (Buffers.getElem?_append _ beat _), delivery?]
      by_cases htarget : Shelf.ofBeat beat = shelf ∧ beat.monitorId = monitorId
      · obtain ⟨hshelf, rfl⟩ := htarget
        simp [hshelf]
      · simp [htarget]
  | set target owner beats overwrite =>
    rw [access_set]
    refine ⟨_, Access.on_write_open _ c, Shelf.retention_put .., fun shelf => ⟨?_, fun monitorId => ?_⟩⟩
    · rw [Shelf.buffers_put, reaches]
      by_cases htarget : target = shelf <;> simp [htarget, Received.isSet]
    · rw [Shelf.buffer?_put (Buffers.getElem?_merge _ owner beats overwrite _), delivery?]
      by_cases htarget : target = shelf ∧ owner = monitorId
      · obtain ⟨hshelf, rfl⟩ := htarget
        simp [hshelf]
      · simp [htarget]
  | clear cleared =>
    refine ⟨_, Access.on_write_open _ c, rfl, fun shelf => ?_⟩
    have hbuffers : shelf.buffers
        { c with
          heartbeats := c.heartbeats.map (·.erase cleared)
          importantHeartbeats := c.importantHeartbeats.map (·.erase cleared) } =
        (shelf.buffers c).map (·.erase cleared) := by
      cases shelf <;> rfl
    rw [hbuffers, reaches, Bool.or_false]
    refine ⟨Received.isSet_map .., fun monitorId => ?_⟩
    rw [Shelf.buffer?, hbuffers, Received.find?_erase, delivery?, Shelf.buffer?]
    by_cases hcleared : cleared = monitorId
    · simp [hcleared, Delivery.deliver]
    · simp [hcleared]

/-- What a shelf answers after a write that reaches it and delivers something to a monitor. -/
theorem HeartbeatWrite.read_of_delivery {write : HeartbeatWrite} {shelf : Shelf} {monitorId : Int64}
    {delivered : Delivery Heartbeat} (hreaches : write.reaches shelf = true)
    (hdelivery : write.delivery? shelf monitorId = some delivered) (c : Store.Contents) :
    shelf.read (write.access.on ⟨some c⟩).2 monitorId =
      (Delivery.deliver (shelf.capacity c.retention) (shelf.buffer? c monitorId) delivered).elim
        (.error (.notFound shelf.label monitorId)) .ok := by
  obtain ⟨after, hwrite, -, hshelves⟩ := write.step c
  obtain ⟨hset, hbuffer⟩ := hshelves shelf
  rw [hwrite, Shelf.read_open, hset, hreaches, Bool.or_true, if_pos rfl, hbuffer, hdelivery]
  rfl

end UptimeSync
