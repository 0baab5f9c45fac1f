import UptimeSync.Config.Basic
import UptimeSync.Wire.Exact

namespace UptimeSync

private def readPort : Json → Except Fault UInt16 := fun v =>
  (v.exactUnsigned UInt16.size "u16").map UInt16.ofNat

private def readWord (wanted : String) : Json → Except Fault UInt64 := fun v =>
  (v.exactUnsigned UInt64.size wanted).map UInt64.ofNat

namespace Connection

def schema : Wire.Schema where
  title := "ConnectionConfig"
  slots := [.exact "host" Json.exactText, .exact "port" readPort, .exact "secure" Json.exactFlag]

def ofJson (v : Json) : Except Fault Connection := do
  let e ← schema.read v
  return {
    host := e.exact "host" Json.exactText "localhost"
    port := e.exact "port" readPort 3001
    secure := e.exact "secure" Json.exactFlag false }

end Connection

namespace Timeouts

def schema : Wire.Schema where
  title := "TimeoutConfig"
  slots :=
    [.exact "emit_timeout_ms" (readWord "u64"), .exact "await_timeout_ms" (readWord "u64"),
     .exact "poll_interval_ms" (readWord "u64")]

def ofJson (v : Json) : Except Fault Timeouts := do
  let e ← schema.read v
  return {
    emitMs := e.exact "emit_timeout_ms" (readWord "u64") 5000
    awaitMs := e.exact "await_timeout_ms" (readWord "u64") 5000
    pollMs := e.exact "poll_interval_ms" (readWord "u64") 100 }

end Timeouts

namespace Retention

def schema : Wire.Schema where
  title := "RetentionConfig"
  slots :=
    [.exact "heartbeat_capacity" (readWord "usize"),
     .exact "important_heartbeat_capacity" (readWord "usize")]

def ofJson (v : Json) : Except Fault Retention := do
  let e ← schema.read v
  return {
    heartbeats := e.exact "heartbeat_capacity" (readWord "usize") 150
    importantHeartbeats := e.exact "important_heartbeat_capacity" (readWord "usize") 25 }

end Retention

namespace Credentials

private def readOptional : Json → Except Fault (Option String) := Json.orNull Json.exactText

def schema : Wire.Schema where
  title := "CredentialsConfig"
  slots :=
    [.exact "username" readOptional, .exact "password" readOptional, .exact "token" readOptional,
     .exact "jwt" readOptional]

def ofJson (v : Json) : Except Fault Credentials := do
  let e ← schema.read v
  return {
    username := e.exact "username" readOptional none
    password := e.exact "password" readOptional none
    token := e.exact "token" readOptional none
    jwt := e.exact "jwt" readOptional none }

end Credentials

namespace Config

def schema : Wire.Schema where
  title := "ClientConfig"
  slots :=
    [.exact "connection" Connection.ofJson, .exact "timeouts" Timeouts.ofJson,
     .exact "retention" Retention.ofJson, .exact "credentials" Credentials.ofJson]

def ofJson (v : Json) : Except Fault Config := do
  let e ← schema.read v
  return {
    connection := e.exact "connection" Connection.ofJson {}
    timeouts := e.exact "timeouts" Timeouts.ofJson {}
    retention := e.exact "retention" Retention.ofJson {}
    credentials := e.exact "credentials" Credentials.ofJson {} }

end Config
end UptimeSync
