import UptimeSync.Action.Reply
import UptimeSync.Wire.Exact
import UptimeSync.Store.Catalog
import UptimeSync.Store.History
import UptimeSync.Store.Registers
import UptimeSync.Validation.Monitor
import UptimeSync.Validation.Tag

namespace UptimeSync.Program

/-- What a field holds, or the error of a response that lacks it. -/
def required (action : String) (field : Option α) : Program α :=
  match field with
  | some a => pure a
  | none => fail (.invalidResponse action)

/-- Reads a list of tags that is part of an acknowledgement. -/
def nestedTags : Json → Except Fault (List Tag)
  | .array items => items.mapM Tag.ofNested
  | v => .error (.wrongType v "a sequence")

def nestedTag : Json → Except Fault (Option Tag) := Json.orNull Tag.ofNested

def nestedSettings : Json → Except Fault (Option Settings) := Json.orNull Settings.ofJson

/-- Fetches all tags; they replace the ones in the store. -/
def getTags : Program (List Tag) := do
  let body ← request "getTags" [] [.exact "tags" nestedTags]
  let tags := body.exact "tags" nestedTags []
  perform (Store.setTags tags)
  return tags

/-- Sends a tag and puts the one that the server answers with into the store. -/
def saveTag (action : String) (members : Json.Members) : Program Tag := do
  let body ← request action [.ofMembers members] [.exact "tag" nestedTag]
  let tag ← required action (body.exact "tag" nestedTag none)
  perform (Store.setTag tag)
  return tag

/-- Makes a tag. The server gives it its identifier. -/
def addTag (name color : String) : Program Tag := do
  done ({ name, color } : Tag).validate
  saveTag "addTag" [("new", .bool true), ("name", .string name), ("color", .string color)]

/-- Changes the name and the color of a tag. -/
def editTag (t : Tag) : Program Tag := do
  done t.validate
  saveTag "editTag" [("id", .ofInt64 t.id), ("name", .string t.name), ("color", .string t.color)]

def deleteTag (id : Int64) : Program Unit := do
  order "deleteTag" [.ofInt64 id]
  perform (Store.deleteTag id)

def monitorIdFields : List Wire.Slot := [⟨"monitorID", .int, []⟩]

/-- Makes a monitor and gives the identifier that the server chose for it. The monitor's own
identifier does not count. -/
def addMonitor (m : Monitor) : Program Int64 := do
  done m.validate
  let body ← request "add" [m.toJson] monitorIdFields
  let id ← required "add" (body.optInt "monitorID")
  perform (Store.setMonitor { m with id })
  return id

/-- Saves a monitor under its own identifier. -/
def editMonitor (m : Monitor) : Program Unit := do
  done m.validate
  let _ ← request "editMonitor" [m.toJson] monitorIdFields
  perform (Store.setMonitor m)

/-- Deletes a monitor and drops its heartbeats. -/
def deleteMonitor (id : Int64) : Program Unit := do
  order "deleteMonitor" [.ofInt64 id]
  performIfCached (Store.deleteMonitor id)
  perform (Store.clearHeartbeats id)

def setActive (action : String) (id : Int64) (active : Bool) : Program Unit := do
  order action [.ofInt64 id]
  performIfCached (Store.updateMonitor id fun m => { m with active })

def pauseMonitor (id : Int64) : Program Unit := setActive "pauseMonitor" id false

def resumeMonitor (id : Int64) : Program Unit := setActive "resumeMonitor" id true

/-- Deletes the events that the server keeps of a monitor. -/
def clearEvents (id : Int64) : Program Unit := order "clearEvents" [.ofInt64 id]

/-- Deletes the heartbeats of a monitor, at the server and in the store. -/
def clearHeartbeats (id : Int64) : Program Unit := do
  order "clearHeartbeats" [.ofInt64 id]
  perform (Store.clearHeartbeats id)

/-- Deletes the statistics of all monitors. -/
def clearStatistics : Program Unit := order "clearStatistics" []

/-- Fetches the settings of the server into the store. -/
def getSettings : Program Settings := do
  let body ← request "getSettings" [] [.exact "data" nestedSettings]
  let settings ← required "getSettings" (body.exact "data" nestedSettings none)
  perform (Store.setSettings settings)
  return settings

/-- Saves settings, for which the server asks for the password again. -/
def setSettings (settings : Settings) (password : String) : Program Unit := do
  order "setSettings" [settings.toJson, .string password]
  perform (Store.setSettings settings)

end UptimeSync.Program
