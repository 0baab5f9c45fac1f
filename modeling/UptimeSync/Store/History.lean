import UptimeSync.Store.Basic

namespace UptimeSync

/-- The heartbeats of every monitor that has any. -/
abbrev Buffers := IdMap (Queue Heartbeat)

namespace Buffers

/-- The heartbeats of a monitor, empty if it has none. -/
def queue (buffers : Buffers) (monitorId : Int64) : Queue Heartbeat :=
  buffers[monitorId]?.getD {}

/-- Adds the newest heartbeat of its monitor and keeps the newest `capacity`. -/
def append (buffers : Buffers) (beat : Heartbeat) (capacity : Nat) : Buffers :=
  buffers.insert beat.monitorId (((queue buffers beat.monitorId).push beat).trim capacity)

/-- Takes in a batch for one monitor, whatever monitor its heartbeats name. A batch that overwrites
is the server's own window and is kept whole; any other is added and the newest `capacity` kept. -/
def merge (buffers : Buffers) (monitorId : Int64) (beats : List Heartbeat) (overwrite : Bool)
    (capacity : Nat) : Buffers :=
  let owned := beats.map fun beat => { beat with monitorId }
  let before := queue buffers monitorId
  buffers.insert monitorId <|
    if overwrite then before.replace owned
    else (owned.foldl Queue.push before).trim capacity

end Buffers

namespace Store

def snapshot (what : String) (buffers : Received Buffers) (monitorId : Int64) :
    Except Error (List Heartbeat) := do
  let buffers ← buffers.get
  match buffers[monitorId]? with
  | some queue => .ok queue.toList
  | none => .error (.notFound what monitorId)

/-- The heartbeats kept for a monitor, oldest first. -/
def heartbeats (s : Store) (monitorId : Int64) : Except Error (List Heartbeat) := do
  snapshot "heartbeats" (← s.contents).heartbeats monitorId

/-- The status changes kept for a monitor, oldest first. -/
def importantHeartbeats (s : Store) (monitorId : Int64) : Except Error (List Heartbeat) := do
  snapshot "important heartbeats" (← s.contents).importantHeartbeats monitorId

/-- Takes in a batch of heartbeats for a monitor. -/
def setHeartbeats (monitorId : Int64) (beats : List Heartbeat) (overwrite : Bool) : Access Unit :=
  write fun c =>
    let buffers := c.heartbeats.getD ∅
    let capacity := c.retention.heartbeats.toNat
    let merged := Buffers.merge buffers monitorId beats overwrite capacity
    { c with heartbeats := .value merged }

/-- Takes in a batch of status changes for a monitor. -/
def setImportantHeartbeats (monitorId : Int64) (beats : List Heartbeat) (overwrite : Bool) :
    Access Unit :=
  write fun c =>
    let buffers := c.importantHeartbeats.getD ∅
    let capacity := c.retention.importantHeartbeats.toNat
    let merged := Buffers.merge buffers monitorId beats overwrite capacity
    { c with importantHeartbeats := .value merged }

/-- Takes in a live heartbeat, among the status changes if it is important. -/
def appendHeartbeat (beat : Heartbeat) : Access Unit :=
  write fun c =>
    if beat.important then
      let buffers := c.importantHeartbeats.getD ∅
      let capacity := c.retention.importantHeartbeats.toNat
      { c with importantHeartbeats := .value (Buffers.append buffers beat capacity) }
    else
      let buffers := c.heartbeats.getD ∅
      let capacity := c.retention.heartbeats.toNat
      { c with heartbeats := .value (Buffers.append buffers beat capacity) }

/-- Drops every heartbeat of a monitor, status changes included. -/
def clearHeartbeats (monitorId : Int64) : Access Unit :=
  write fun c =>
    { c with
      heartbeats := c.heartbeats.map (·.erase monitorId)
      importantHeartbeats := c.importantHeartbeats.map (·.erase monitorId) }

end Store
end UptimeSync
