import UptimeSync.Wire.Schema

namespace UptimeSync

/-- One health check of a monitor. The time is the server's own text. -/
structure Heartbeat where
  downCount : Int64 := 0
  duration : Int64 := 0
  id : Int64 := 0
  important : Bool := false
  monitorId : Int64 := 0
  msg : String := ""
  ping : Option Int64 := none
  status : Bool := false
  time : String := ""
deriving DecidableEq

namespace Heartbeat

def schema : Wire.Schema where
  title := "Heartbeat"
  slots :=
    [⟨"down_count", .int, ["downCount"]⟩, ⟨"duration", .int, []⟩, ⟨"id", .int, []⟩,
     ⟨"important", .flag, []⟩, ⟨"monitorId", .int, ["monitor_id"]⟩, ⟨"msg", .text, []⟩,
     ⟨"ping", .int, []⟩, ⟨"status", .flag, []⟩, ⟨"time", .text, []⟩]

/-- The heartbeat with the given entries. -/
def ofEntries (e : Wire.Entries) : Heartbeat where
  downCount := e.int "down_count"
  duration := e.int "duration"
  id := e.int "id"
  important := e.flag "important"
  monitorId := e.int "monitorId"
  msg := e.text "msg"
  ping := e.optInt "ping"
  status := e.flag "status"
  time := e.text "time"

def ofJson (v : Json) : Except Fault Heartbeat :=
  (schema.read v).map ofEntries

def toJson (b : Heartbeat) : Json :=
  .ofMembers
    [("down_count", .ofInt64 b.downCount), ("duration", .ofInt64 b.duration), ("id", .ofInt64 b.id),
     ("important", .bool b.important), ("monitorId", .ofInt64 b.monitorId), ("msg", .string b.msg),
     ("ping", .ofOption .ofInt64 b.ping), ("status", .bool b.status), ("time", .string b.time)]

end Heartbeat
end UptimeSync
