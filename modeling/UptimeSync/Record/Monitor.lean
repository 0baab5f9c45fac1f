import UptimeSync.Wire.Schema

namespace UptimeSync

/-- A watched resource as the server describes it. What the server sends beyond the known fields is
kept in `extra` and sent back when the monitor is edited. Six fields are computed by the server and
never sent: `active`, `childrenIds`, `pathName`, `maintenance`, `forceInactive` and `tags`. -/
structure Monitor where
  id : Int64 := 0
  name : String := ""
  type : String := ""
  description : Option String := none
  active : Bool := false
  parent : Option Int64 := none
  childrenIds : List Int64 := []
  pathName : Option String := none
  maintenance : Option Bool := none
  forceInactive : Option Bool := none
  tags : List Json := []
  interval : Int64 := 0
  retryInterval : Int64 := 0
  resendInterval : Int64 := 0
  maxRetries : Int64 := 0
  weight : Option Int64 := none
  upsideDown : Bool := false
  url : Option String := none
  method : Option String := none
  body : Option String := none
  headers : Option String := none
  httpBodyEncoding : Option String := none
  maxRedirects : Int64 := 0
  acceptedStatusCodes : List String := []
  ignoreTls : Bool := false
  expiryNotification : Option Bool := none
  authMethod : Option String := none
  basicAuthUser : Option String := none
  basicAuthPass : Option String := none
  keyword : Option String := none
  invertKeyword : Bool := false
  proxyId : Option Int64 := none
  hostname : Option String := none
  port : Option Int64 := none
  packetSize : Int64 := 0
  dnsResolveServer : Option String := none
  dnsResolveType : Option String := none
  dnsLastResult : Option String := none
  dockerContainer : Option String := none
  dockerHost : Option String := none
  databaseConnectionString : Option String := none
  databaseQuery : Option String := none
  pushToken : Option String := none
  game : Option String := none
  notificationIds : Json.Members := []
  extra : Json.Members := []

namespace Monitor

def checkArray : Json → Except Fault Unit
  | .array _ => .ok ()
  | v => .error (.wrongType v "a sequence")

def checkObject : Json → Except Fault Unit
  | .object _ => .ok ()
  | v => .error (.wrongType v "a map")

def schema : Wire.Schema where
  title := "Monitor"
  slots :=
    [⟨"id", .int, []⟩, ⟨"name", .text, []⟩, ⟨"type", .text, []⟩, ⟨"description", .text, []⟩,
     ⟨"active", .flag, []⟩, ⟨"parent", .int, []⟩, ⟨"childrenIds", .ints, []⟩,
     ⟨"pathName", .text, []⟩, ⟨"maintenance", .flag, []⟩, ⟨"forceInactive", .flag, []⟩,
     ⟨"tags", .strict checkArray, []⟩, ⟨"interval", .int, []⟩, ⟨"retryInterval", .int, []⟩,
     ⟨"resendInterval", .int, []⟩, ⟨"maxretries", .int, []⟩, ⟨"weight", .int, []⟩,
     ⟨"upsideDown", .flag, []⟩, ⟨"url", .text, []⟩, ⟨"method", .text, []⟩, ⟨"body", .text, []⟩,
     ⟨"headers", .text, []⟩, ⟨"httpBodyEncoding", .text, []⟩, ⟨"maxredirects", .int, []⟩,
     ⟨"accepted_statuscodes", .texts, []⟩, ⟨"ignoreTls", .flag, []⟩,
     ⟨"expiryNotification", .flag, []⟩, ⟨"authMethod", .text, []⟩, ⟨"basic_auth_user", .text, []⟩,
     ⟨"basic_auth_pass", .text, []⟩, ⟨"keyword", .text, []⟩, ⟨"invertKeyword", .flag, []⟩,
     ⟨"proxyId", .int, []⟩, ⟨"hostname", .text, []⟩, ⟨"port", .int, []⟩, ⟨"packetSize", .int, []⟩,
     ⟨"dns_resolve_server", .text, []⟩, ⟨"dns_resolve_type", .text, []⟩,
     ⟨"dns_last_result", .text, []⟩, ⟨"docker_container", .text, []⟩, ⟨"docker_host", .text, []⟩,
     ⟨"databaseConnectionString", .text, []⟩, ⟨"databaseQuery", .text, []⟩,
     ⟨"pushToken", .text, []⟩, ⟨"game", .text, []⟩,
     ⟨"notificationIDList", .strict checkObject, []⟩]

/-- The monitor with the given entries and the given members beside them. -/
def ofEntries (e : Wire.Entries) (extra : Json.Members) : Monitor where
  id := e.int "id"
  name := e.text "name"
  type := e.text "type"
  description := e.optText "description"
  active := e.flag "active"
  parent := e.optInt "parent"
  childrenIds := e.ints "childrenIds"
  pathName := e.optText "pathName"
  maintenance := e.optFlag "maintenance"
  forceInactive := e.optFlag "forceInactive"
  tags := e.items "tags"
  interval := e.int "interval"
  retryInterval := e.int "retryInterval"
  resendInterval := e.int "resendInterval"
  maxRetries := e.int "maxretries"
  weight := e.optInt "weight"
  upsideDown := e.flag "upsideDown"
  url := e.optText "url"
  method := e.optText "method"
  body := e.optText "body"
  headers := e.optText "headers"
  httpBodyEncoding := e.optText "httpBodyEncoding"
  maxRedirects := e.int "maxredirects"
  acceptedStatusCodes := e.texts "accepted_statuscodes"
  ignoreTls := e.flag "ignoreTls"
  expiryNotification := e.optFlag "expiryNotification"
  authMethod := e.optText "authMethod"
  basicAuthUser := e.optText "basic_auth_user"
  basicAuthPass := e.optText "basic_auth_pass"
  keyword := e.optText "keyword"
  invertKeyword := e.flag "invertKeyword"
  proxyId := e.optInt "proxyId"
  hostname := e.optText "hostname"
  port := e.optInt "port"
  packetSize := e.int "packetSize"
  dnsResolveServer := e.optText "dns_resolve_server"
  dnsResolveType := e.optText "dns_resolve_type"
  dnsLastResult := e.optText "dns_last_result"
  dockerContainer := e.optText "docker_container"
  dockerHost := e.optText "docker_host"
  databaseConnectionString := e.optText "databaseConnectionString"
  databaseQuery := e.optText "databaseQuery"
  pushToken := e.optText "pushToken"
  game := e.optText "game"
  notificationIds := e.object "notificationIDList"
  extra := extra

def ofJson (v : Json) : Except Fault Monitor := do
  let members ← schema.members v
  let e ← schema.ofMembers members
  return ofEntries e (schema.rest members)

/-- The members of the known fields that are sent. -/
def known (m : Monitor) : Json.Members :=
  [("id", .ofInt64 m.id), ("name", .string m.name), ("type", .string m.type),
   ("description", .ofOption .string m.description), ("parent", .ofOption .ofInt64 m.parent),
   ("interval", .ofInt64 m.interval), ("retryInterval", .ofInt64 m.retryInterval),
   ("resendInterval", .ofInt64 m.resendInterval), ("maxretries", .ofInt64 m.maxRetries),
   ("weight", .ofOption .ofInt64 m.weight), ("upsideDown", .bool m.upsideDown),
   ("url", .ofOption .string m.url), ("method", .ofOption .string m.method),
   ("body", .ofOption .string m.body), ("headers", .ofOption .string m.headers),
   ("httpBodyEncoding", .ofOption .string m.httpBodyEncoding),
   ("maxredirects", .ofInt64 m.maxRedirects),
   ("accepted_statuscodes", .array (m.acceptedStatusCodes.map .string)),
   ("ignoreTls", .bool m.ignoreTls), ("expiryNotification", .ofOption .bool m.expiryNotification),
   ("authMethod", .ofOption .string m.authMethod),
   ("basic_auth_user", .ofOption .string m.basicAuthUser),
   ("basic_auth_pass", .ofOption .string m.basicAuthPass),
   ("keyword", .ofOption .string m.keyword), ("invertKeyword", .bool m.invertKeyword),
   ("proxyId", .ofOption .ofInt64 m.proxyId), ("hostname", .ofOption .string m.hostname),
   ("port", .ofOption .ofInt64 m.port), ("packetSize", .ofInt64 m.packetSize),
   ("dns_resolve_server", .ofOption .string m.dnsResolveServer),
   ("dns_resolve_type", .ofOption .string m.dnsResolveType),
   ("dns_last_result", .ofOption .string m.dnsLastResult),
   ("docker_container", .ofOption .string m.dockerContainer),
   ("docker_host", .ofOption .string m.dockerHost),
   ("databaseConnectionString", .ofOption .string m.databaseConnectionString),
   ("databaseQuery", .ofOption .string m.databaseQuery),
   ("pushToken", .ofOption .string m.pushToken), ("game", .ofOption .string m.game),
   ("notificationIDList", .object m.notificationIds)]

def toJson (m : Monitor) : Json :=
  .ofMembers (m.known ++ m.extra)

end Monitor
end UptimeSync
