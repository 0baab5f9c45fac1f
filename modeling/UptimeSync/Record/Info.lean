import UptimeSync.Wire.Schema

namespace UptimeSync

/-- What the server tells about itself after a connection is made. -/
structure Info where
  latestVersion : Option String := none
  primaryBaseUrl : Option String := none
  serverTimezone : Option String := none
  serverTimezoneOffset : Option String := none
  version : Option String := none
deriving DecidableEq

namespace Info

def schema : Wire.Schema where
  title := "Info"
  slots :=
    [⟨"latestVersion", .text, []⟩, ⟨"primaryBaseURL", .text, []⟩, ⟨"serverTimezone", .text, []⟩,
     ⟨"serverTimezoneOffset", .text, []⟩, ⟨"version", .text, []⟩]

/-- The server information with the given entries. -/
def ofEntries (e : Wire.Entries) : Info where
  latestVersion := e.optText "latestVersion"
  primaryBaseUrl := e.optText "primaryBaseURL"
  serverTimezone := e.optText "serverTimezone"
  serverTimezoneOffset := e.optText "serverTimezoneOffset"
  version := e.optText "version"

def ofJson (v : Json) : Except Fault Info :=
  (schema.read v).map ofEntries

def toJson (i : Info) : Json :=
  .ofMembers
    [("latestVersion", .ofOption .string i.latestVersion),
     ("primaryBaseURL", .ofOption .string i.primaryBaseUrl),
     ("serverTimezone", .ofOption .string i.serverTimezone),
     ("serverTimezoneOffset", .ofOption .string i.serverTimezoneOffset),
     ("version", .ofOption .string i.version)]

end Info
end UptimeSync
