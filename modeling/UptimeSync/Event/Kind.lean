namespace UptimeSync

/-- The events that the server pushes and the client understands. -/
inductive EventKind where
  | connect
  | disconnect
  | message
  | error
  | info
  | heartbeat
  | heartbeatList
  | importantHeartbeatList
  | autoLogin
  | monitorList
deriving DecidableEq

namespace EventKind

/-- Every kind, in the order in which handlers are registered. -/
def all : List EventKind :=
  [connect, disconnect, message, error, info, heartbeat, heartbeatList, importantHeartbeatList,
   autoLogin, monitorList]

/-- The name of an event on the wire. -/
def name : EventKind → String
  | connect => "connect"
  | disconnect => "disconnect"
  | message => "message"
  | error => "error"
  | info => "info"
  | heartbeat => "heartbeat"
  | heartbeatList => "heartbeatList"
  | importantHeartbeatList => "importantHeartbeatList"
  | autoLogin => "autoLogin"
  | monitorList => "monitorList"

/-- The kind with a name on the wire. -/
def ofName? (name : String) : Option EventKind :=
  all.find? fun kind => kind.name == name

theorem mem_all (kind : EventKind) : kind ∈ all := by
  cases kind <;> decide

end EventKind
end UptimeSync
