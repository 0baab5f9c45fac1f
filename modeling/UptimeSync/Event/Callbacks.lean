import Std.Data.ExtTreeMap
import UptimeSync.Error
import UptimeSync.Json.Basic

namespace UptimeSync

/-- Callbacks by the name of their event, in the order of their registration. -/
structure Callbacks (c : Type) where
  byName : Std.ExtTreeMap String (List c) := ∅

namespace Callbacks

variable {c : Type}

instance : EmptyCollection (Callbacks c) := ⟨{}⟩

/-- The callbacks for an event, the oldest first. -/
def forEvent (table : Callbacks c) (event : String) : List c :=
  table.byName[event]?.getD []

/-- Adds a callback behind those that its event already has. -/
def on (table : Callbacks c) (event : String) (callback : c) : Callbacks c :=
  ⟨table.byName.insert event (table.forEvent event ++ [callback])⟩

def contains (table : Callbacks c) (event : String) : Bool := table.byName.contains event

/-- The number of events with a callback. -/
def size (table : Callbacks c) : Nat := table.byName.size

def isEmpty (table : Callbacks c) : Bool := table.byName.isEmpty

/-- Runs callbacks in their order. All of them run; the first failure is the result. -/
def runAll {m : Type → Type} [Monad m] (run : c → m (Except Error Unit)) :
    List c → m (Except Error Unit)
  | [] => pure (.ok ())
  | callback :: rest => do
    let first ← run callback
    let later ← runAll run rest
    return match first with
      | .error e => .error e
      | .ok () => later

/-- Runs the callbacks that an event has when it arrives, with its arguments. Callbacks that are
added meanwhile are left to the next event of that name. -/
def dispatch {m : Type → Type} [Monad m] (table : Callbacks c)
    (run : c → List Json → m (Except Error Unit)) (event : String) (args : List Json) :
    m (Except Error Unit) :=
  runAll (run · args) (table.forEvent event)

end Callbacks
end UptimeSync
