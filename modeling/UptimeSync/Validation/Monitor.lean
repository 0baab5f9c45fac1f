import UptimeSync.Error
import UptimeSync.Record.Monitor
import UptimeSync.Text.Blank
import UptimeSync.Text.Search

namespace UptimeSync.Monitor

/-- The types of monitors that the client may create. -/
def types : List String :=
  ["group", "http", "port", "ping", "keyword", "json-query", "grpc-keyword", "dns", "docker",
   "real-browser", "push", "steam", "gamedig", "mqtt", "kafka-producer", "sqlserver", "postgres",
   "mysql", "mongodb", "radius", "redis", "tailscale-ping"]

def isKnownType (type : String) : Bool := types.contains type

/-- Holds of the types that check a web address. -/
def needsUrl (type : String) : Bool :=
  ["http", "keyword", "json-query", "real-browser"].contains type

/-- Holds of the types that look for a keyword. -/
def needsKeyword (type : String) : Bool :=
  ["keyword", "grpc-keyword"].contains type

/-- Holds of the types that check a host. -/
def needsHostname (type : String) : Bool :=
  ["port", "ping", "dns", "steam", "gamedig", "mqtt", "radius", "tailscale-ping"].contains type

/-- The shortest and the longest interval between two checks, in seconds. -/
def minInterval : Int64 := 20

def maxInterval : Int64 := 86400

/-- A rule that a monitor breaks. -/
inductive Violation where
  | blankName
  | unknownType (type : String)
  | intervalOutOfRange (interval : Int64)
  | negativeRetries
  | portOutOfRange (port : Int64)
  | missingUrl (type : String)
  | badUrl (url : String)
  | missingKeyword (type : String)
  | missingHostname (type : String)
deriving DecidableEq

namespace Violation

def field : Violation → String
  | blankName => "name"
  | unknownType _ => "type"
  | intervalOutOfRange _ => "interval"
  | negativeRetries => "maxretries"
  | portOutOfRange _ => "port"
  | missingUrl _ | badUrl _ => "url"
  | missingKeyword _ => "keyword"
  | missingHostname _ => "hostname"

def reason : Violation → String
  | blankName => "must not be empty"
  | unknownType type => s!"unknown monitor type '{type}'"
  | intervalOutOfRange interval =>
    s!"must be within [{minInterval}, {maxInterval}], got {interval.toInt}"
  | negativeRetries => "must not be negative"
  | portOutOfRange port => s!"{port.toInt} is out of range"
  | missingUrl type | missingKeyword type | missingHostname type => s!"required for {type} monitors"
  | badUrl url => s!"'{url}' is not an http(s) URL"

end Violation

/-- Holds of text that is absent or blank. -/
def isMissing (s : Option String) : Bool := s.all Text.isAllBlank

/-- The rule that the port breaks, if one is given. -/
def portViolation? (m : Monitor) : Option Violation :=
  match m.port with
  | some port => if 0 ≤ port ∧ port ≤ 65535 then none else some (.portOutOfRange port)
  | none => none

/-- The rule that the web address of a type that needs one breaks. -/
def urlViolation? (m : Monitor) : Option Violation :=
  if !needsUrl m.type then none
  else
    let url := (m.url.map Text.trim).getD ""
    if url.isEmpty then some (.missingUrl m.type)
    else if Text.startsWith url "http://" || Text.startsWith url "https://" then none
    else some (.badUrl url)

/-- The rule that the keyword breaks: it is given where the type needs one. -/
def keywordViolation? (m : Monitor) : Option Violation :=
  if needsKeyword m.type && isMissing m.keyword then some (.missingKeyword m.type) else none

/-- The rule that the hostname breaks: it is given where the type needs one. -/
def hostnameViolation? (m : Monitor) : Option Violation :=
  if needsHostname m.type && isMissing m.hostname then some (.missingHostname m.type) else none

/-- The first rule that a monitor breaks. -/
def violation? (m : Monitor) : Option Violation :=
  if Text.isAllBlank m.name then some .blankName
  else if !isKnownType m.type then some (.unknownType m.type)
  else if m.interval < minInterval ∨ maxInterval < m.interval then
    some (.intervalOutOfRange m.interval)
  else if m.maxRetries < 0 then some .negativeRetries
  else
    m.portViolation? <|> m.urlViolation? <|> m.keywordViolation? <|> m.hostnameViolation?

def validate (m : Monitor) : Except Error Unit :=
  match m.violation? with
  | some v => .error (.invalidField v.field v.reason)
  | none => .ok ()

end UptimeSync.Monitor
