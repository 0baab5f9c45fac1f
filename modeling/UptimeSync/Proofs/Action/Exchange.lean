import UptimeSync.Action.Basic
import UptimeSync.Proofs.Action.Change

namespace UptimeSync.Action

/-- What the validator says of the record that an action is about to send. -/
def verdict : Action → Except Error Unit
  | addTag name color => ({ name, color } : Tag).validate
  | editTag t => t.validate
  | addMonitor m | editMonitor m => m.validate
  | _ => .ok ()

/-- Holds of a login without username and password, for which nothing is sent. -/
def isUnattended : Action → Bool
  | login username password _ => username.isEmpty && password.isEmpty
  | _ => false

def name : Action → String
  | login .. => "login"
  | loginByToken _ => "loginByToken"
  | logout => "logout"
  | changePassword .. => "changePassword"
  | prepareTwoFactor _ => "prepare2FA"
  | saveTwoFactor _ => "save2FA"
  | disableTwoFactor _ => "disable2FA"
  | verifyToken .. => "verifyToken"
  | twoFactorStatus => "twoFAStatus"
  | needSetup => "needSetup"
  | setup .. => "setup"
  | getTags => "getTags"
  | addTag .. => "addTag"
  | editTag _ => "editTag"
  | deleteTag _ => "deleteTag"
  | addMonitor _ => "add"
  | editMonitor _ => "editMonitor"
  | deleteMonitor _ => "deleteMonitor"
  | pauseMonitor _ => "pauseMonitor"
  | resumeMonitor _ => "resumeMonitor"
  | clearEvents _ => "clearEvents"
  | clearHeartbeats _ => "clearHeartbeats"
  | clearStatistics => "clearStatistics"
  | getSettings => "getSettings"
  | setSettings .. => "setSettings"

def args : Action → List Json
  | login username password token =>
    [.ofMembers [("username", .string username), ("password", .string password),
      ("token", .string (token.getD ""))]]
  | loginByToken token => [.string token]
  | changePassword current new =>
    [.ofMembers [("currentPassword", .string current), ("newPassword", .string new)]]
  | prepareTwoFactor password | saveTwoFactor password | disableTwoFactor password =>
    [.string password]
  | verifyToken token password => [.string token, .string password]
  | setup username password => [.string username, .string password]
  | addTag name color =>
    [.ofMembers [("new", .bool true), ("name", .string name), ("color", .string color)]]
  | editTag t =>
    [.ofMembers [("id", .ofInt64 t.id), ("name", .string t.name), ("color", .string t.color)]]
  | addMonitor m | editMonitor m => [m.toJson]
  | deleteTag id | deleteMonitor id | pauseMonitor id | resumeMonitor id | clearEvents id
  | clearHeartbeats id => [.ofInt64 id]
  | setSettings settings password => [settings.toJson, .string password]
  | logout | twoFactorStatus | needSetup | getTags | clearStatistics | getSettings => []

/-- The fields of its own that the acknowledgement of an action has. -/
def fields : Action → List Wire.Slot
  | login .. => Program.loginFields
  | prepareTwoFactor _ => [⟨"uri", .text, []⟩]
  | verifyToken .. => [⟨"valid", .flag, []⟩]
  | twoFactorStatus => [⟨"status", .flag, []⟩]
  | getTags => [.exact "tags" Program.nestedTags]
  | addTag .. | editTag _ => [.exact "tag" Program.nestedTag]
  | addMonitor _ | editMonitor _ => Program.monitorIdFields
  | getSettings => [.exact "data" Program.nestedSettings]
  | _ => []

def reply (a : Action) (raw : Json) : Except Error Reply :=
  Reply.decode a.name (Reply.ofJson a.fields) raw

/-- The fields of an acknowledgement by which an action was carried out. A login has errors of its own
for the other case, and one for a second factor that is missing. -/
def approve (a : Action) (reply : Reply) : Except Error Wire.Entries :=
  match a with
  | login .. =>
    if reply.body.flag "tokenRequired" then .error .tokenRequired
    else if reply.ok then .ok reply.body
    else .error (.loginRefused (reply.msg.getD ""))
  | loginByToken _ =>
    if reply.ok then .ok reply.body else .error (.loginRefused (reply.msg.getD ""))
  | a => reply.accepted a.name

/-- What the fields of its acknowledgement make an action give back, and the changes to the store. -/
def settle (a : Action) (body : Wire.Entries) : Except Error (Answer × List Change) :=
  match a with
  | login .. => .ok (.token (some (body.text "token")), [.loggedIn true])
  | loginByToken _ => .ok (.nothing, [.loggedIn true])
  | logout => .ok (.nothing, [.loggedIn false])
  | prepareTwoFactor _ =>
    (body.optText "uri").elim (.error (.invalidResponse a.name)) fun uri => .ok (.text uri, [])
  | verifyToken .. => .ok (.flag (body.flag "valid"), [])
  | twoFactorStatus => .ok (.flag (body.flag "status"), [])
  | getTags =>
    let tags := body.exact "tags" Program.nestedTags []
    .ok (.tags tags, [.tags tags])
  | addTag .. | editTag _ =>
    (body.exact "tag" Program.nestedTag none).elim (.error (.invalidResponse a.name))
      fun t => .ok (.tag t, [.tag t])
  | deleteTag id => .ok (.nothing, [.dropTag id])
  | addMonitor m =>
    (body.optInt "monitorID").elim (.error (.invalidResponse a.name))
      fun id => .ok (.id id, [.monitor { m with id }])
  | editMonitor m => .ok (.nothing, [.monitor m])
  | deleteMonitor id => .ok (.nothing, [.dropMonitor id, .dropHeartbeats id])
  | pauseMonitor id => .ok (.nothing, [.active id false])
  | resumeMonitor id => .ok (.nothing, [.active id true])
  | clearHeartbeats id => .ok (.nothing, [.dropHeartbeats id])
  | getSettings =>
    (body.exact "data" Program.nestedSettings none).elim (.error (.invalidResponse a.name))
      fun settings => .ok (.settings settings, [.settings settings])
  | setSettings settings _ => .ok (.nothing, [.settings settings])
  | _ => .ok (.nothing, [])

/-- What an acknowledgement makes an action give back, and the changes to the store. Two actions have
acknowledgements of another form: that of a logout is not looked at, that of the question whether the
server has an account is a flag by itself. -/
def judge (a : Action) (raw : Json) : Except Error (Answer × List Change) :=
  match a with
  | logout => a.settle ⟨[]⟩
  | needSetup => (Reply.decode a.name Json.exactFlag raw).map fun b => (.flag b, [])
  | a => a.reply raw >>= a.approve >>= a.settle

/-- One exchange with the server: a check of what is sent, a request, a check of its acknowledgement,
and the changes to the store. -/
def exchange (a : Action) : Program Answer := do
  Program.done a.verdict
  let raw ← Program.send a.name a.args
  let outcome ← Program.done (a.judge raw)
  Change.commit outcome.2 outcome.1

/-- Most actions are a request of the common kind, whose acknowledgement says whether it was carried
out. -/
theorem exchange_eq_request {a : Action}
    (hjudge : a.judge = fun raw => a.reply raw >>= Reply.accepted a.name >>= a.settle) :
    a.exchange = (do
      Program.done a.verdict
      let body ← Program.request a.name a.args a.fields
      let outcome ← Program.done (a.settle body)
      Change.commit outcome.2 outcome.1) := by
  simp only [exchange, hjudge, Program.done_bind, Program.request, Program.ask, reply, bind_assoc]

/-- A field that has to be there is asked for either in the program or in what settles the action. -/
theorem done_elim_bind {α β : Type} (action : String) (field : Option α) (f : α → β)
    (p : β → Program Answer) :
    (Program.done (field.elim (.error (.invalidResponse action)) fun a => .ok (f a)) >>= p) =
      Program.required action field >>= fun a => p (f a) := by
  cases field <;> rfl

theorem prepareTwoFactor_eq (password : String) :
    Program.prepareTwoFactor password = (do
      let body ← Program.request "prepare2FA" [.string password] [⟨"uri", .text, []⟩]
      Program.required "prepare2FA" (body.optText "uri")) := by
  refine bind_congr fun body => ?_
  cases body.optText "uri" <;> rfl

theorem login_eq_exchange (username password : String) (token : Option String)
    (hattended : (login username password token).isUnattended = false) :
    (login username password token).program = (login username password token).exchange := by
  have hcredentials : ¬(username.isEmpty ∧ password.isEmpty) := by
    simpa [isUnattended] using hattended
  simp only [program, Program.login, if_neg hcredentials, Program.ask, map_eq_pure_bind, bind_assoc,
    exchange, verdict, name, args, judge, reply, fields, Program.done_bind, Program.done_ok_bind]
  refine bind_congr fun raw => bind_congr fun reply => ?_
  rw [approve]
  cases reply.body.flag "tokenRequired" with
  | true => rfl
  | false =>
    cases reply.ok with
    | false => rfl
    | true =>
      change ((Program.perform (Store.setLoggedIn true) >>= fun _ =>
        pure (some (reply.body.text "token"))) >>= fun token => pure (Answer.token token)) = _
      rw [bind_assoc]
      rfl

theorem loginByToken_eq_exchange (token : String) :
    (loginByToken token).program = (loginByToken token).exchange := by
  simp only [program, silently, Program.loginByToken, Program.ask, map_eq_pure_bind, bind_assoc,
    exchange, verdict, name, args, judge, reply, fields, Program.done_bind, Program.done_ok_bind]
  refine bind_congr fun raw => bind_congr fun reply => ?_
  rw [approve]
  cases reply.ok <;> rfl

/-- Every action is one exchange with the server, but for a login that is left to the server. -/
theorem program_eq_exchange (a : Action) (hattended : a.isUnattended = false) :
    a.program = a.exchange := by
  cases a with
  | login username password token => exact login_eq_exchange username password token hattended
  | loginByToken token => exact loginByToken_eq_exchange token
  | logout =>
    simp only [program, silently, Program.logout, map_eq_pure_bind, bind_assoc, exchange, verdict, judge,
      name, args, Program.done_ok_bind]
    rfl
  | needSetup =>
    simp only [program, Program.needSetup, map_eq_pure_bind, bind_assoc, exchange, verdict, judge, name,
      args, Program.done_map, Program.done_ok_bind, Change.commit]
  | prepareTwoFactor =>
    rw [exchange_eq_request rfl]
    simp only [program, prepareTwoFactor_eq, map_eq_pure_bind, bind_assoc, verdict, name, args, fields,
      settle, Program.done_ok_bind, done_elim_bind, Change.commit]
  | getTags | verifyToken | twoFactorStatus =>
    rw [exchange_eq_request rfl]
    simp only [program, Program.getTags, Program.verifyToken, Program.twoFactorStatus, map_eq_pure_bind,
      bind_assoc, pure_bind, verdict, name, args, fields, settle, Program.done_ok_bind]
    rfl
  | addTag | editTag | addMonitor | editMonitor | getSettings =>
    rw [exchange_eq_request rfl]
    simp only [program, silently, Program.addTag, Program.editTag, Program.saveTag, Program.addMonitor,
      Program.editMonitor, Program.getSettings, map_eq_pure_bind, bind_assoc, pure_bind, verdict, name,
      args, fields, settle, Program.done_ok_bind, done_elim_bind]
    rfl
  | changePassword | saveTwoFactor | disableTwoFactor | setup | clearEvents | clearStatistics =>
    rw [exchange_eq_request rfl]
    simp only [program, silently, Program.changePassword, Program.saveTwoFactor, Program.disableTwoFactor,
      Program.setup, Program.clearEvents, Program.clearStatistics, Program.order, map_eq_pure_bind,
      bind_assoc, pure_bind, verdict, name, args, fields, settle, Program.done_ok_bind, Change.commit]
  | deleteTag | deleteMonitor | pauseMonitor | resumeMonitor | clearHeartbeats | setSettings =>
    rw [exchange_eq_request rfl]
    simp only [program, silently, Program.deleteTag, Program.deleteMonitor, Program.pauseMonitor,
      Program.resumeMonitor, Program.setActive, Program.clearHeartbeats, Program.setSettings,
      Program.order, map_eq_pure_bind, bind_assoc, pure_bind, verdict, name, args, fields, settle,
      Program.done_ok_bind]
    rfl

end UptimeSync.Action
