import UptimeSync.Action.Reply
import UptimeSync.Wire.Exact
import UptimeSync.Store.Registers

namespace UptimeSync.Program

def loginFields : List Wire.Slot :=
  [⟨"token", .text, []⟩, ⟨"tokenRequired", .flag, []⟩]

/-- Logs in with a username, a password and, if the account asks for it, a second factor. With
neither username nor password the session has to be logged in by the server. The answer is the
token of the session, if the server gave one. -/
def login (username password : String) (token : Option String) : Program (Option String) :=
  if username.isEmpty ∧ password.isEmpty then do
    awaitEvent .connect
    awaitEvent .autoLogin
    perform (Store.setLoggedIn true)
    return none
  else do
    let credentials : Json := .ofMembers
      [("username", .string username), ("password", .string password),
       ("token", .string (token.getD ""))]
    let reply ← ask "login" [credentials] loginFields
    if reply.body.flag "tokenRequired" then fail .tokenRequired
    if !reply.ok then fail (.loginRefused (reply.msg.getD ""))
    perform (Store.setLoggedIn true)
    return some (reply.body.text "token")

/-- Takes up a session again by its token. -/
def loginByToken (token : String) : Program Unit := do
  let reply ← ask "loginByToken" [.string token] []
  if !reply.ok then fail (.loginRefused (reply.msg.getD ""))
  perform (Store.setLoggedIn true)

/-- Ends the session. Nothing in the acknowledgement is looked at. -/
def logout : Program Unit := do
  let _ ← send "logout" []
  perform (Store.setLoggedIn false)

def changePassword (current new : String) : Program Unit :=
  order "changePassword"
    [.ofMembers [("currentPassword", .string current), ("newPassword", .string new)]]

/-- Begins to set up a second factor and gives the address that it is set up with. -/
def prepareTwoFactor (password : String) : Program String := do
  let body ← request "prepare2FA" [.string password] [⟨"uri", .text, []⟩]
  match body.optText "uri" with
  | some uri => return uri
  | none => fail (.invalidResponse "prepare2FA")

def saveTwoFactor (password : String) : Program Unit :=
  order "save2FA" [.string password]

def disableTwoFactor (password : String) : Program Unit :=
  order "disable2FA" [.string password]

/-- Whether a second factor is right. -/
def verifyToken (token password : String) : Program Bool := do
  let body ← request "verifyToken" [.string token, .string password] [⟨"valid", .flag, []⟩]
  return body.flag "valid"

/-- Whether the account has a second factor. -/
def twoFactorStatus : Program Bool := do
  let body ← request "twoFAStatus" [] [⟨"status", .flag, []⟩]
  return body.flag "status"

/-- Whether the server has no account yet. The acknowledgement is a flag by itself. -/
def needSetup : Program Bool := do
  let raw ← send "needSetup" []
  done (Reply.decode "needSetup" Json.exactFlag raw)

/-- Makes the first account. -/
def setup (username password : String) : Program Unit :=
  order "setup" [.string username, .string password]

end UptimeSync.Program
