import UptimeSync.Proofs.History.Window
import UptimeSync.Proofs.Store.Access
import UptimeSync.Proofs.Store.Table
import UptimeSync.Store.History

namespace UptimeSync

/-- A store keeps the heartbeats that change the status of a monitor apart from the others. -/
inductive Shelf where
  | general
  | important
deriving DecidableEq

namespace Shelf

def ofBeat (beat : Heartbeat) : Shelf := if beat.important then important else general

/-- What a shelf is called where it holds nothing for a monitor. -/
def label : Shelf → String
  | general => "heartbeats"
  | important => "important heartbeats"

def capacity (retention : Retention) : Shelf → Nat
  | general => retention.heartbeats.toNat
  | important => retention.importantHeartbeats.toNat

def buffers (c : Store.Contents) : Shelf → Received Buffers
  | general => c.heartbeats
  | important => c.importantHeartbeats

def put (buffers : Buffers) (c : Store.Contents) : Shelf → Store.Contents
  | general => { c with heartbeats := .value buffers }
  | important => { c with importantHeartbeats := .value buffers }

def read (s : Store) (monitorId : Int64) : Shelf → Except Error (List Heartbeat)
  | general => s.heartbeats monitorId
  | important => s.importantHeartbeats monitorId

/-- The buffer of a monitor, if it has one. -/
def buffer? (c : Store.Contents) (monitorId : Int64) (shelf : Shelf) : Option (List Heartbeat) :=
  ((shelf.buffers c).find? monitorId).map Queue.toList

theorem buffers_put (target shelf : Shelf) (buffers : Buffers) (c : Store.Contents) :
    shelf.buffers (target.put buffers c) = if target = shelf then .value buffers else shelf.buffers c := by
  cases target <;> cases shelf <;> rfl

theorem retention_put (shelf : Shelf) (buffers : Buffers) (c : Store.Contents) :
    (shelf.put buffers c).retention = c.retention := by
  cases shelf <;> rfl

end Shelf

/-- A write to the heartbeats of a store. -/
inductive HeartbeatWrite where
  | append (beat : Heartbeat)
  | set (shelf : Shelf) (monitorId : Int64) (beats : List Heartbeat) (overwrite : Bool)
  | clear (monitorId : Int64)

namespace HeartbeatWrite

def access : HeartbeatWrite → Access Unit
  | append beat => Store.appendHeartbeat beat
  | set .general monitorId beats overwrite => Store.setHeartbeats monitorId beats overwrite
  | set .important monitorId beats overwrite => Store.setImportantHeartbeats monitorId beats overwrite
  | clear monitorId => Store.clearHeartbeats monitorId

def beats : HeartbeatWrite → List Heartbeat
  | append beat => [beat]
  | set _ _ beats _ => beats
  | clear _ => []

/-- Holds of the writes that bring something to a shelf, for whatever monitor. -/
def reaches (shelf : Shelf) : HeartbeatWrite → Bool
  | append beat => Shelf.ofBeat beat = shelf
  | set target _ _ _ => target = shelf
  | clear _ => false

/-- What a write does to the buffer of a monitor on a shelf, if anything. A heartbeat is stored as
one of that monitor. -/
def delivery? (shelf : Shelf) (monitorId : Int64) : HeartbeatWrite → Option (Delivery Heartbeat)
  | append beat =>
    if Shelf.ofBeat beat = shelf ∧ beat.monitorId = monitorId then
      some (.batch [{ beat with monitorId }])
    else none
  | set target id beats overwrite =>
    if target = shelf ∧ id = monitorId then
      let owned := beats.map fun beat => { beat with monitorId }
      some (if overwrite then .window owned else .batch owned)
    else none
  | clear id => if id = monitorId then some .clear else none

theorem access_append (beat : Heartbeat) :
    (append beat).access = Store.write fun c =>
      let shelf := Shelf.ofBeat beat
      shelf.put (((shelf.buffers c).getD ∅).append beat (shelf.capacity c.retention)) c := by
  rw [access, Store.appendHeartbeat]
  congr 1
  funext c
  by_cases himportant : beat.important = true
  · rw [if_pos himportant, Shelf.ofBeat, if_pos himportant]
    rfl
  · rw [if_neg himportant, Shelf.ofBeat, if_neg himportant]
    rfl

theorem access_set (shelf : Shelf) (monitorId : Int64) (beats : List Heartbeat) (overwrite : Bool) :
    (set shelf monitorId beats overwrite).access = Store.write fun c =>
      shelf.put (((shelf.buffers c).getD ∅).merge monitorId beats overwrite
        (shelf.capacity c.retention)) c := by
  cases shelf <;> rfl

end HeartbeatWrite

/-- The store after a run of writes to its heartbeats. -/
def Store.afterWrites (s : Store) (writes : List HeartbeatWrite) : Store :=
  writes.foldl (fun s write => (write.access.on s).2) s

end UptimeSync
