import UptimeSync.Config.Environment
import UptimeSync.Config.Path
import UptimeSync.Config.Rules
import UptimeSync.Toml.Document

namespace UptimeSync

namespace Config.Value

/-- The entries of a section: it is a table, or it lists the values of its fields in their order. -/
def fields? (names : List String) : Value → Option Entries
  | table entries => some entries
  | list items => some (names.zip items)
  | _ => none

/-- The setting with a name, or its default if the entries do not have it. -/
def setting? (entries : Entries) (name : String) (convert : Value → Option α) (default : α) :
    Option α :=
  match entries.lookup name with
  | some v => convert v
  | none => some default

end Config.Value

open Config.Value

/-- The address that a section states. -/
def Connection.ofValue? (v : Config.Value) : Option Connection := do
  let entries ← v.fields? ["host", "port", "secure"]
  let host ← setting? entries "host" toText? "localhost"
  let port ← setting? entries "port" (toUnsigned? UInt16.size) 3001
  let secure ← setting? entries "secure" toFlag? false
  return { host, port := .ofNat port, secure }

/-- The timeouts that a section states. -/
def Timeouts.ofValue? (v : Config.Value) : Option Timeouts := do
  let entries ← v.fields? ["emit_timeout_ms", "await_timeout_ms", "poll_interval_ms"]
  let emit ← setting? entries "emit_timeout_ms" (toUnsigned? UInt64.size) 5000
  let await ← setting? entries "await_timeout_ms" (toUnsigned? UInt64.size) 5000
  let poll ← setting? entries "poll_interval_ms" (toUnsigned? UInt64.size) 100
  return { emitMs := .ofNat emit, awaitMs := .ofNat await, pollMs := .ofNat poll }

/-- The capacities that a section states. -/
def Retention.ofValue? (v : Config.Value) : Option Retention := do
  let entries ← v.fields? ["heartbeat_capacity", "important_heartbeat_capacity"]
  let all ← setting? entries "heartbeat_capacity" (toUnsigned? UInt64.size) 150
  let important ← setting? entries "important_heartbeat_capacity" (toUnsigned? UInt64.size) 25
  return { heartbeats := .ofNat all, importantHeartbeats := .ofNat important }

/-- The credentials that a section states. -/
def Credentials.ofValue? (v : Config.Value) : Option Credentials := do
  let entries ← v.fields? ["username", "password", "token", "jwt"]
  let username ← setting? entries "username" toOptText? none
  let password ← setting? entries "password" toOptText? none
  let token ← setting? entries "token" toOptText? none
  let jwt ← setting? entries "jwt" toOptText? none
  return { username, password, token, jwt }

namespace Config

/-- The configuration that a table of sections states. -/
def ofValue? (root : Value) : Option Config := do
  let connection ← setting? root.entries "connection" Connection.ofValue? {}
  let timeouts ← setting? root.entries "timeouts" Timeouts.ofValue? {}
  let retention ← setting? root.entries "retention" Retention.ofValue? {}
  let credentials ← setting? root.entries "credentials" Credentials.ofValue? {}
  return { connection, timeouts, retention, credentials }

/-- A file to read the configuration from. -/
inductive File where
  | missing
  | text (content : String)

/-- The entries of a file. -/
def File.entries : File → Except Error Value.Entries
  | missing => .error (.unreadableConfig "the configuration file does not exist")
  | text content =>
    match Toml.read? content.toList with
    | some entries => .ok entries
    | none => .error (.unreadableConfig "the configuration file is not valid TOML")

/-- The value that the entries of a file, if there is one, and over them the variables of an
environment amount to. -/
def layered (file : Value.Entries) (environment : List (String × String)) :
    Except BadIndex Value := do
  let root ← (Value.table []).overlay file
  root.overlay (Environment.entries environment)

/-- Why a configuration is not loaded: an error that its user can mend, or an index that ends the
program. -/
inductive LoadFailure where
  | error (e : Error)
  | badIndex (why : BadIndex)

/-- Loads a configuration from a file, if one is given, and from the variables of an environment,
which override the file setting by setting. What neither of them sets has its default. -/
def load (file : Option File) (environment : List (String × String)) :
    Except LoadFailure Config := do
  let fromFile ← (file.elim (.ok []) File.entries).mapError .error
  let root ← (layered fromFile environment).mapError .badIndex
  match ofValue? root with
  | none => .error (.error (.unreadableConfig "a setting has a value of the wrong type"))
  | some config =>
    config.validate.mapError .error
    return config

end Config
end UptimeSync
