import UptimeSync.Text.Blank
import UptimeSync.Text.Quoted
import UptimeSync.Decimal.Layout
import UptimeSync.Decimal.Read
import UptimeSync.Json.Reader
import UptimeSync.Json.Printer
import UptimeSync.Wire.Schema
import UptimeSync.Wire.IdMap
import UptimeSync.Record.Heartbeat
import UptimeSync.Record.Tag
import UptimeSync.Record.Info
import UptimeSync.Record.Settings
import UptimeSync.Record.Monitor
import UptimeSync.Config.Rules
import UptimeSync.Config.FromJson
import UptimeSync.Config.Load
import UptimeSync.Store.Registers
import UptimeSync.Store.Catalog
import UptimeSync.Store.History
import UptimeSync.Event.Handler
import UptimeSync.Event.Listener
import UptimeSync.Event.Registrar
import UptimeSync.Event.Registry
import UptimeSync.Validation.Tag
import UptimeSync.Validation.Monitor
import UptimeSync.Action.Basic
import UptimeSync.Client.Builder
import UptimeSync.Proofs.Text.Search
import UptimeSync.Proofs.Text.Blank
import UptimeSync.Proofs.Text.Bytes
import UptimeSync.Proofs.Decimal.Numeral
import UptimeSync.Proofs.Decimal.Integer
import UptimeSync.Proofs.Decimal.Truncation
import UptimeSync.Proofs.Json.Members
import UptimeSync.Proofs.Json.Lookup
import UptimeSync.Proofs.Json.Reading
import UptimeSync.Proofs.Json.Number
import UptimeSync.Proofs.Wire.Coercion
import UptimeSync.Proofs.Wire.Written
import UptimeSync.Proofs.Wire.Reading
import UptimeSync.Proofs.Wire.ScalarList
import UptimeSync.Proofs.Wire.Clamping
import UptimeSync.Proofs.Wire.IdTable
import UptimeSync.Proofs.Store.Queue
import UptimeSync.Proofs.History.Law
import UptimeSync.Proofs.Event.Atomic
import UptimeSync.Proofs.Event.Callbacks
import UptimeSync.Proofs.Event.Registration
import UptimeSync.Proofs.Event.Registry
import UptimeSync.Proofs.Event.Reentrant
import UptimeSync.Proofs.Event.Ingestion
import UptimeSync.Proofs.Action.Reply
import UptimeSync.Proofs.Action.Acknowledged
import UptimeSync.Proofs.Action.Encoding
import UptimeSync.Proofs.Action.Discipline
import UptimeSync.Proofs.Action.Footprint
import UptimeSync.Proofs.Action.Login
import UptimeSync.Proofs.Action.Trace
import UptimeSync.Proofs.Action.Timeout
import UptimeSync.Proofs.Record.RoundTrip
import UptimeSync.Proofs.Record.Absence
import UptimeSync.Proofs.Record.Unmodelled
import UptimeSync.Proofs.Record.Update
import UptimeSync.Proofs.Action.Saving
import UptimeSync.Proofs.Run.Write
import UptimeSync.Proofs.Run.Operation
import UptimeSync.Proofs.Run.Register
import UptimeSync.Proofs.Run.MonitorTable
import UptimeSync.Proofs.Run.Occurrence
import UptimeSync.Proofs.Run.KeyedTable
import UptimeSync.Proofs.Run.Closed
import UptimeSync.Proofs.Run.Independence
import UptimeSync.Proofs.Run.Snapshot
import UptimeSync.Proofs.Run.TagTable
import UptimeSync.Proofs.Validation.Monitor
import UptimeSync.Proofs.Validation.Tag
import UptimeSync.Proofs.Config.Layers
import UptimeSync.Proofs.Config.Rules
import UptimeSync.Proofs.Config.Literal
import UptimeSync.Proofs.Config.TextSetting
import UptimeSync.Proofs.Client.Built
import UptimeSync.Proofs.Client.Replay
import UptimeSync.Proofs.Client.Dispatch
import UptimeSync.Proofs.Client.Chronicle
import UptimeSync.Proofs.Client.Connection
import UptimeSync.Proofs.Client.Guard
import UptimeSync.Proofs.Client.Closed
import UptimeSync.Proofs.Client.Awaiting
import UptimeSync.Proofs.Client.Building
