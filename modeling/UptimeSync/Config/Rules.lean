import UptimeSync.Config.Basic
import UptimeSync.Error
import UptimeSync.Text.Blank
import UptimeSync.Text.Search

namespace UptimeSync

/-- A rule that a configuration breaks. -/
inductive Config.Violation where
  | blankHost
  /-- The host carries a scheme. -/
  | schemeInHost (host : String)
  | zeroPort
  | zeroTimeout
  | zeroPollInterval
  | pollExceedsAwait (poll await : UInt64)
  | zeroCapacity
  /-- Only one of username and password is given. -/
  | loneCredential
deriving DecidableEq

namespace Config.Violation

/-- The text of a broken rule. -/
def message : Violation → String
  | blankHost => "connection.host must not be empty"
  | schemeInHost host => s!"connection.host must be a bare host name, got {host}"
  | zeroPort => "connection.port must be non-zero"
  | zeroTimeout => "timeouts must be greater than zero"
  | zeroPollInterval => "timeouts.poll_interval_ms must be greater than zero"
  | pollExceedsAwait poll await =>
    s!"timeouts.poll_interval_ms ({poll}) exceeds await_timeout_ms ({await})"
  | zeroCapacity => "heartbeat capacities must be greater than zero"
  | loneCredential => "credentials.username and credentials.password must be set together"

end Config.Violation

/-- The first rule that an address breaks: the host is not blank and has no scheme, and the port is
not zero. -/
def Connection.violation? (c : Connection) : Option Config.Violation :=
  if Text.isAllBlank c.host then some .blankHost
  else if Text.contains c.host "://" then some (.schemeInHost c.host)
  else if c.port = 0 then some .zeroPort
  else none

/-- The first rule that the timeouts break: none is zero, and a wait is polled at least once before
its deadline. -/
def Timeouts.violation? (t : Timeouts) : Option Config.Violation :=
  if t.emitMs = 0 ∨ t.awaitMs = 0 then some .zeroTimeout
  else if t.pollMs = 0 then some .zeroPollInterval
  else if t.awaitMs < t.pollMs then some (.pollExceedsAwait t.pollMs t.awaitMs)
  else none

/-- The rule that the capacities break: none is zero. -/
def Retention.violation? (r : Retention) : Option Config.Violation :=
  if r.heartbeats = 0 ∨ r.importantHeartbeats = 0 then some .zeroCapacity else none

/-- The rule that the credentials break: username and password come together. -/
def Credentials.violation? (c : Credentials) : Option Config.Violation :=
  if c.username.isSome = c.password.isSome then none else some .loneCredential

/-- The first rule that a configuration breaks, section by section. -/
def Config.violation? (c : Config) : Option Config.Violation :=
  c.connection.violation? <|> c.timeouts.violation? <|> c.retention.violation? <|>
    c.credentials.violation?

/-- Refuses a configuration, or a section of it, that breaks a rule. -/
def Config.refuse : Option Config.Violation → Except Error Unit
  | some violation => .error (.invalidConfig violation.message)
  | none => .ok ()

def Config.validate (c : Config) : Except Error Unit :=
  Config.refuse c.violation?

end UptimeSync
