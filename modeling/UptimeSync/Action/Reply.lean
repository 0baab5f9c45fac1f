import UptimeSync.Action.Program
import UptimeSync.Json.Reader
import UptimeSync.Wire.Schema

namespace UptimeSync

/-- The server's answer to a request: whether it was carried out, what the server says about it, and
the fields that belong to the request. -/
structure Reply where
  ok : Bool
  msg : Option String
  body : Wire.Entries

namespace Reply

/-- The payload of an acknowledgement, which is an array of that one item. An item that is text is
read as JSON, once. -/
def payload (action : String) (raw : Json) : Except Error Json :=
  match raw with
  | .array [.string text] =>
    match Json.read? text with
    | some v => .ok v
    | none => .error (.unreadableResponse action .malformed)
  | .array [v] => .ok v
  | _ => .error (.invalidResponse action)

/-- Reads the payload of an acknowledgement. -/
def decode (action : String) (read : Json → Except Fault α) (raw : Json) : Except Error α := do
  let v ← payload action raw
  (read v).mapError fun fault => .unreadableResponse action (.value fault)

/-- The fields that every acknowledgement has. -/
def envelope : Wire.Schema where
  title := "Envelope"
  slots := [⟨"ok", .flag, []⟩, ⟨"msg", .text, []⟩]

/-- Reads an acknowledgement with the given fields of its own. The common fields are read first. -/
def ofJson (fields : List Wire.Slot) (v : Json) : Except Fault Reply := do
  let members ← envelope.members v
  let common ← envelope.ofMembers members
  let body ← { envelope with slots := fields }.ofMembers (envelope.rest members)
  return { ok := common.flag "ok", msg := common.optText "msg", body }

/-- The fields of the answer to a request that was carried out. -/
def accepted (action : String) (reply : Reply) : Except Error Wire.Entries :=
  if reply.ok then .ok reply.body else .error (.refused action (reply.msg.getD ""))

end Reply

namespace Program

/-- Sends a request and reads its acknowledgement. -/
def ask (action : String) (args : List Json) (fields : List Wire.Slot) : Program Reply := do
  let raw ← send action args
  done (Reply.decode action (Reply.ofJson fields) raw)

/-- Sends a request and gives the fields of its acknowledgement if it was carried out. -/
def request (action : String) (args : List Json) (fields : List Wire.Slot) :
    Program Wire.Entries := do
  let reply ← ask action args fields
  done (reply.accepted action)

/-- Sends a request whose acknowledgement has no fields of its own. -/
def order (action : String) (args : List Json) : Program Unit := do
  let _ ← request action args []

end Program
end UptimeSync
