import UptimeSync.Duration

namespace UptimeSync

/-- Where the server listens. -/
structure Connection where
  host : String := "localhost"
  port : UInt16 := 3001
  secure : Bool := false
deriving DecidableEq

/-- Deadlines and the polling period, in milliseconds. -/
structure Timeouts where
  emitMs : UInt64 := 5000
  awaitMs : UInt64 := 5000
  pollMs : UInt64 := 100
deriving DecidableEq

/-- How many heartbeats are kept for each monitor. The two windows are independent. -/
structure Retention where
  heartbeats : UInt64 := 150
  importantHeartbeats : UInt64 := 25
deriving DecidableEq

/-- What to log in with. With everything empty the server has to log the session in by itself. -/
structure Credentials where
  username : Option String := none
  password : Option String := none
  token : Option String := none
  jwt : Option String := none
deriving DecidableEq

/-- The configuration of a client. -/
structure Config where
  connection : Connection := {}
  timeouts : Timeouts := {}
  retention : Retention := {}
  credentials : Credentials := {}
deriving DecidableEq

/-- The address of the server's socket. -/
def Connection.url (c : Connection) : String :=
  let scheme := if c.secure then "wss" else "ws"
  s!"{scheme}://{c.host}:{c.port}/socket.io/?EIO=4&transport=websocket"

namespace Timeouts

def emit (t : Timeouts) : Duration := .ofMillis t.emitMs.toNat

def await (t : Timeouts) : Duration := .ofMillis t.awaitMs.toNat

def poll (t : Timeouts) : Duration := .ofMillis t.pollMs.toNat

end Timeouts
end UptimeSync
