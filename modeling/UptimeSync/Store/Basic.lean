import UptimeSync.Config.Basic
import UptimeSync.Record.Heartbeat
import UptimeSync.Record.Info
import UptimeSync.Record.Monitor
import UptimeSync.Record.Settings
import UptimeSync.Record.Tag
import UptimeSync.Store.Queue
import UptimeSync.Store.Received
import UptimeSync.Store.Seen
import UptimeSync.Wire.IdMap

namespace UptimeSync

/-- What is known of the server. Whether the session is logged in, and which tags there are, is
known from the start; everything else only once the server has sent it. -/
structure Store.Contents where
  retention : Retention := {}
  seen : SeenEvents := {}
  connected : Received Bool := .notYet
  loggedIn : Bool := false
  autoLogin : Received Bool := .notYet
  info : Received Info := .notYet
  settings : Received Settings := .notYet
  monitors : Received (IdMap Monitor) := .notYet
  tags : Received (IdMap Tag) := .value ∅
  heartbeats : Received (IdMap (Queue Heartbeat)) := .notYet
  importantHeartbeats : Received (IdMap (Queue Heartbeat)) := .notYet

/-- The client's picture of the server. A closed store has no contents and never gets any again. -/
structure Store where
  contents? : Option Store.Contents

/-- An operation on the store. An operation that fails leaves the store it has made of it so far. -/
abbrev Access (α : Type) := ExceptT Error (StateM Store) α

/-- The result of an operation on a store, and the store it leaves. -/
def Access.on (op : Access α) (s : Store) : Except Error α × Store :=
  StateT.run (ExceptT.run op) s

namespace Store

/-- An open store in which nothing has been received. -/
def empty (retention : Retention) : Store := ⟨some { retention }⟩

/-- A store that is closed from the start. -/
def detached : Store := ⟨none⟩

def isClosed (s : Store) : Bool := s.contents?.isNone

/-- A store as it is named in logs, without its contents. -/
def description (s : Store) : String :=
  "State \x7b closed: " ++ toString s.isClosed ++ " \x7d"

/-- Empties the store for good. -/
def close (_ : Store) : Store := detached

/-- The contents of an open store. -/
def contents (s : Store) : Except Error Contents :=
  match s.contents? with
  | some c => .ok c
  | none => .error .storeClosed

/-- Replaces the contents of an open store by what `f` makes of them, unless it fails. -/
def update (f : Contents → Except Error Contents) : Access Unit := fun s =>
  match s.contents.bind f with
  | .ok c => (.ok (), ⟨some c⟩)
  | .error e => (.error e, s)

/-- Replaces the contents of an open store. -/
def write (f : Contents → Contents) : Access Unit :=
  update fun c => .ok (f c)

/-- Holds if an event of that name was marked as seen; nothing was in a closed store. -/
def hasSeen (s : Store) (name : String) : Bool :=
  s.contents?.any fun c => c.seen.has name

/-- Marks an event as seen. A closed store takes no mark, and does not complain. -/
def markSeen (name : String) : Access Unit :=
  modify fun s => ⟨s.contents?.map fun c => { c with seen := c.seen.mark name }⟩

end Store
end UptimeSync
