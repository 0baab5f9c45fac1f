import UptimeSync.Duration
import UptimeSync.Event.Kind
import UptimeSync.Wire.Fault

namespace UptimeSync

/-- Everything that can go wrong, by cause. The last two wrap the failure of a step that a request
depends on. -/
inductive Error where
  /-- The store has been closed, or never existed. -/
  | storeClosed
  /-- The server has not sent the value yet. -/
  | notSetYet
  | notFound (what : String) (id : Int64)
  /-- An awaited event did not occur before the deadline. -/
  | awaitTimeout (event : EventKind) (after : Duration)
  /-- A request was not acknowledged before the deadline. -/
  | ackTimeout (event : String) (after : Duration)
  | connectionClosed
  | notSent (event reason : String)
  | notRegistered (event reason : String)
  /-- An argument of an event is not of the type that the event requires. -/
  | wrongArgument (expected actual : String)
  | missingArgument (event : EventKind) (index : Nat)
  | unreadableEvent (event : EventKind) (cause : ReadError)
  /-- The server refused a request. -/
  | refused (action msg : String)
  | loginRefused (msg : String)
  | tokenRequired
  | invalidResponse (action : String)
  | unreadableResponse (action : String) (cause : ReadError)
  | invalidField (field reason : String)
  /-- A source of the configuration could not be read. -/
  | unreadableConfig (text : String)
  /-- The configuration breaks a rule. -/
  | invalidConfig (text : String)
  | emitFailed (action : String) (cause : Error)
  | awaitFailed (event : EventKind) (cause : Error)
deriving Inhabited

namespace Error

/-- The text of an error. -/
def message : Error → String
  | storeClosed => "state is nil"
  | notSetYet => "value not set yet"
  | notFound what id => s!"{what} with id {id.toInt} not found"
  | awaitTimeout event after => s!"Timed out after {after.text} waiting for event {event.name}"
  | ackTimeout event after => s!"No acknowledgement for {event} after {after.text}"
  | connectionClosed => "Connection closed"
  | notSent event reason => s!"Failed to emit {event}: {reason}"
  | notRegistered event reason => s!"Failed to register callback for {event}: {reason}"
  | wrongArgument expected actual => s!"invalid data type: expected {expected}, got {actual}"
  | missingArgument event index => s!"{event.name} payload is missing argument {index}"
  | unreadableEvent event cause => s!"decode failed for {event.name}: {cause.message}"
  | refused action msg => s!"action {action} failed: {msg}"
  | loginRefused msg => s!"auth failed: {msg}"
  | tokenRequired => "2fa token required"
  | invalidResponse action => s!"invalid response for {action}"
  | unreadableResponse action cause => s!"decode failed for {action}: {cause.message}"
  | invalidField field reason => s!"invalid {field}: {reason}"
  | unreadableConfig text => text
  | invalidConfig text => s!"Invalid config: {text}"
  | emitFailed action cause => s!"emit failed for {action}: {cause.message}"
  | awaitFailed event cause => s!"await failed for event {event.name}: {cause.message}"

/-- Holds if a deadline expired, for an awaited event or an acknowledgement, at the bottom of any
number of failed steps. -/
def isTimeout : Error → Bool
  | awaitTimeout .. | ackTimeout .. => true
  | emitFailed _ cause | awaitFailed _ cause => cause.isTimeout
  | _ => false

end Error
end UptimeSync
