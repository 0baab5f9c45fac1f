import UptimeSync.Wire.Schema

namespace UptimeSync

/-- Settings of the whole server. A setting that is none, or an empty list of days, is not sent when
the settings are saved. What the server sends beyond the known settings is kept in `extra`. -/
structure Settings where
  checkUpdate : Option Bool := none
  checkBeta : Option Bool := none
  keepDataPeriodDays : Option Int64 := none
  serverTimezone : Option String := none
  entryPage : Option String := none
  searchEngineIndex : Option Bool := none
  primaryBaseUrl : Option String := none
  steamApiKey : Option String := none
  dnsCache : Option Bool := none
  tlsExpiryNotifyDays : List Int64 := []
  disableAuth : Option Bool := none
  trustProxy : Option Bool := none
  extra : Json.Members := []

namespace Settings

def schema : Wire.Schema where
  title := "Settings"
  slots :=
    [⟨"checkUpdate", .flag, []⟩, ⟨"checkBeta", .flag, []⟩, ⟨"keepDataPeriodDays", .int, []⟩,
     ⟨"serverTimezone", .text, []⟩, ⟨"entryPage", .text, []⟩, ⟨"searchEngineIndex", .flag, []⟩,
     ⟨"primaryBaseURL", .text, []⟩, ⟨"steamAPIKey", .text, []⟩, ⟨"dnsCache", .flag, []⟩,
     ⟨"tlsExpiryNotifyDays", .ints, []⟩, ⟨"disableAuth", .flag, []⟩, ⟨"trustProxy", .flag, []⟩]

/-- The settings with the given entries and the given members beside them. -/
def ofEntries (e : Wire.Entries) (extra : Json.Members) : Settings where
  checkUpdate := e.optFlag "checkUpdate"
  checkBeta := e.optFlag "checkBeta"
  keepDataPeriodDays := e.optInt "keepDataPeriodDays"
  serverTimezone := e.optText "serverTimezone"
  entryPage := e.optText "entryPage"
  searchEngineIndex := e.optFlag "searchEngineIndex"
  primaryBaseUrl := e.optText "primaryBaseURL"
  steamApiKey := e.optText "steamAPIKey"
  dnsCache := e.optFlag "dnsCache"
  tlsExpiryNotifyDays := e.ints "tlsExpiryNotifyDays"
  disableAuth := e.optFlag "disableAuth"
  trustProxy := e.optFlag "trustProxy"
  extra := extra

def ofJson (v : Json) : Except Fault Settings := do
  let members ← schema.members v
  let e ← schema.ofMembers members
  return ofEntries e (schema.rest members)

/-- The member for a setting, if it is set. -/
def optional (key : String) (write : α → Json) (value : Option α) : Json.Members :=
  value.toList.map fun v => (key, write v)

/-- The members of the known settings that are sent. -/
def known (s : Settings) : Json.Members :=
  optional "checkUpdate" .bool s.checkUpdate ++
  optional "checkBeta" .bool s.checkBeta ++
  optional "keepDataPeriodDays" .ofInt64 s.keepDataPeriodDays ++
  optional "serverTimezone" .string s.serverTimezone ++
  optional "entryPage" .string s.entryPage ++
  optional "searchEngineIndex" .bool s.searchEngineIndex ++
  optional "primaryBaseURL" .string s.primaryBaseUrl ++
  optional "steamAPIKey" .string s.steamApiKey ++
  optional "dnsCache" .bool s.dnsCache ++
  (if s.tlsExpiryNotifyDays = [] then []
    else [("tlsExpiryNotifyDays", .array (s.tlsExpiryNotifyDays.map .ofInt64))]) ++
  optional "disableAuth" .bool s.disableAuth ++
  optional "trustProxy" .bool s.trustProxy

def toJson (s : Settings) : Json :=
  .ofMembers (s.known ++ s.extra)

end Settings
end UptimeSync
