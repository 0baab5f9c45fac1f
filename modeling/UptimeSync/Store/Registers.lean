import UptimeSync.Store.Basic

namespace UptimeSync.Store

/-- Whether the connection stands. -/
def connected (s : Store) : Except Error Bool := do
  (← s.contents).connected.get

def setConnected (connected : Bool) : Access Unit :=
  write fun c => { c with connected := .value connected }

/-- Whether the session is logged in. -/
def loggedIn (s : Store) : Except Error Bool := do
  return (← s.contents).loggedIn

def setLoggedIn (loggedIn : Bool) : Access Unit :=
  write fun c => { c with loggedIn := loggedIn }

/-- Whether the server logged the session in by itself. -/
def autoLogin (s : Store) : Except Error Bool := do
  (← s.contents).autoLogin.get

def setAutoLogin (autoLogin : Bool) : Access Unit :=
  write fun c => { c with autoLogin := .value autoLogin }

def info (s : Store) : Except Error Info := do
  (← s.contents).info.get

def setInfo (info : Info) : Access Unit :=
  write fun c => { c with info := .value info }

def settings (s : Store) : Except Error Settings := do
  (← s.contents).settings.get

def setSettings (settings : Settings) : Access Unit :=
  write fun c => { c with settings := .value settings }

/-- Notes that the connection was lost. -/
def noteDisconnect (name : String) : Access Unit :=
  write fun c => { c with connected := .value false, seen := c.seen.mark name }

end UptimeSync.Store
