import UptimeSync.Action.Account
import UptimeSync.Action.Inventory

namespace UptimeSync

/-- Everything that a client can ask of the server. -/
inductive Action where
  | login (username password : String) (token : Option String)
  | loginByToken (token : String)
  | logout
  | changePassword (current new : String)
  | prepareTwoFactor (password : String)
  | saveTwoFactor (password : String)
  | disableTwoFactor (password : String)
  | verifyToken (token password : String)
  | twoFactorStatus
  | needSetup
  | setup (username password : String)
  | getTags
  | addTag (name color : String)
  | editTag (tag : Tag)
  | deleteTag (id : Int64)
  | addMonitor (monitor : Monitor)
  | editMonitor (monitor : Monitor)
  | deleteMonitor (id : Int64)
  | pauseMonitor (id : Int64)
  | resumeMonitor (id : Int64)
  | clearEvents (id : Int64)
  | clearHeartbeats (id : Int64)
  | clearStatistics
  | getSettings
  | setSettings (settings : Settings) (password : String)

/-- What an action gives back. -/
inductive Answer where
  | nothing
  | flag (b : Bool)
  | text (s : String)
  | token (token : Option String)
  | id (id : Int64)
  | tag (tag : Tag)
  | tags (tags : List Tag)
  | settings (settings : Settings)

/-- A program that gives nothing back. -/
def silently (p : Program Unit) : Program Answer := (fun _ => .nothing) <$> p

/-- The program of an action. -/
def Action.program : Action → Program Answer
  | login username password token => Answer.token <$> Program.login username password token
  | loginByToken token => silently (Program.loginByToken token)
  | logout => silently Program.logout
  | changePassword current new => silently (Program.changePassword current new)
  | prepareTwoFactor password => Answer.text <$> Program.prepareTwoFactor password
  | saveTwoFactor password => silently (Program.saveTwoFactor password)
  | disableTwoFactor password => silently (Program.disableTwoFactor password)
  | verifyToken token password => Answer.flag <$> Program.verifyToken token password
  | twoFactorStatus => Answer.flag <$> Program.twoFactorStatus
  | needSetup => Answer.flag <$> Program.needSetup
  | setup username password => silently (Program.setup username password)
  | getTags => Answer.tags <$> Program.getTags
  | addTag name color => Answer.tag <$> Program.addTag name color
  | editTag tag => Answer.tag <$> Program.editTag tag
  | deleteTag id => silently (Program.deleteTag id)
  | addMonitor monitor => Answer.id <$> Program.addMonitor monitor
  | editMonitor monitor => silently (Program.editMonitor monitor)
  | deleteMonitor id => silently (Program.deleteMonitor id)
  | pauseMonitor id => silently (Program.pauseMonitor id)
  | resumeMonitor id => silently (Program.resumeMonitor id)
  | clearEvents id => silently (Program.clearEvents id)
  | clearHeartbeats id => silently (Program.clearHeartbeats id)
  | clearStatistics => silently Program.clearStatistics
  | getSettings => Answer.settings <$> Program.getSettings
  | setSettings settings password => silently (Program.setSettings settings password)

end UptimeSync
