import UptimeSync.Store.Catalog
import UptimeSync.Store.History
import UptimeSync.Store.Registers

namespace UptimeSync

namespace EventKind

/-- The argument of an event at a position. -/
def argument (kind : EventKind) (args : List Json) (index : Nat) : Except Error Json :=
  match args[index]? with
  | some v => .ok v
  | none => .error (.missingArgument kind index)

/-- The members of an argument that has to be an object. -/
def expectObject : Json → Except Error Json.Members
  | .object members => .ok members
  | v => .error (.wrongArgument "object" v.typeName)

/-- The items of an argument that has to be an array. -/
def expectArray : Json → Except Error (List Json)
  | .array items => .ok items
  | v => .error (.wrongArgument "array" v.typeName)

/-- Names the event whose payload could not be read. -/
def reading (kind : EventKind) (result : Except ReadError α) : Except Error α :=
  result.mapError (.unreadableEvent kind)

/-- The first argument of an event, an object, read as a whole by `read`. -/
def payload (kind : EventKind) (read : Json.Members → Except ReadError α) (args : List Json) :
    Except Error α := do
  let members ← kind.argument args 0 >>= expectObject
  kind.reading (read members)

/-- The arguments of an event that carries heartbeats: the monitor, the heartbeats, and whether they
replace the ones before them. The last may be missing. -/
def heartbeatBatch (kind : EventKind) (args : List Json) :
    Except Error (Int64 × List Heartbeat × Bool) := do
  let owner ← kind.argument args 0
  let items ← kind.argument args 1 >>= expectArray
  let monitorId ← kind.reading (Wire.readValue Json.looseInt owner)
  let overwrite ← kind.reading (Wire.readValue Json.looseFlag (args[2]?.getD .null))
  let beats ← kind.reading (Wire.readList Heartbeat.ofJson items)
  return (monitorId, beats, overwrite)

/-- Takes the arguments of a received event into the store. -/
def handle (kind : EventKind) (args : List Json) : Access Unit :=
  match kind with
  | connect => Store.setConnected true
  | disconnect => Store.noteDisconnect kind.name
  | message | error => Store.markSeen kind.name
  | info => do
    let info ← kind.payload (Wire.readValue Info.ofJson ∘ Json.object) args
    Store.setInfo info
  | heartbeat => do
    let beat ← kind.payload (Wire.readValue Heartbeat.ofJson ∘ Json.object) args
    Store.appendHeartbeat beat
  | heartbeatList => do
    let (monitorId, beats, overwrite) ← kind.heartbeatBatch args
    Store.setHeartbeats monitorId beats overwrite
  | importantHeartbeatList => do
    let (monitorId, beats, overwrite) ← kind.heartbeatBatch args
    Store.setImportantHeartbeats monitorId beats overwrite
  | autoLogin => Store.setAutoLogin true
  | monitorList => do
    let table ← kind.payload (Wire.readTable Monitor.ofJson) args
    Store.receiveMonitors kind.name table

/-- Holds of an answer that shows that a field was written, be it without an entry for the key that
was asked for. -/
def isPresent : Except Error α → Bool
  | .ok _ | .error (.notFound ..) => true
  | .error _ => false

/-- Whether an event has occurred at least once. Some events leave a mark in the store, the others
are recognised by the field that they write. -/
def occurred (kind : EventKind) (s : Store) : Bool :=
  match kind with
  | connect => isPresent s.connected
  | disconnect | message | error | monitorList => s.hasSeen kind.name
  | info => isPresent s.info
  | heartbeat => isPresent (s.heartbeats 0) || isPresent (s.importantHeartbeats 0)
  | heartbeatList => isPresent (s.heartbeats 0)
  | importantHeartbeatList => isPresent (s.importantHeartbeats 0)
  | autoLogin => isPresent s.autoLogin

end EventKind
end UptimeSync
