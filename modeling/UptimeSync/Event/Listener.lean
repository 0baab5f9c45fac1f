import UptimeSync.Event.Callbacks

namespace UptimeSync

/-- A callback that writes no store. When it runs it notes its label and the arguments, then adds
further listeners, then fails if it is set to. -/
inductive Listener where
  | mk (label : Json) (adds : List (String × Listener)) (failure? : Option Error)
deriving Inhabited

namespace Listener

def label : Listener → Json
  | mk label _ _ => label

def adds : Listener → List (String × Listener)
  | mk _ adds _ => adds

def failure? : Listener → Option Error
  | mk _ _ failure? => failure?

/-- What a listener answers. -/
def answer (l : Listener) : Except Error Unit :=
  l.failure?.elim (.ok ()) .error

/-- One run of a listener: its label and the arguments. -/
structure Call where
  label : Json
  args : List Json

end Listener

/-- Callbacks of which all are listeners, and the runs of listeners so far. -/
structure Listeners where
  callbacks : Callbacks Listener := ∅
  calls : List Listener.Call := []

namespace Listeners

/-- Runs a listener. -/
def run (l : Listener) (args : List Json) : StateM Listeners (Except Error Unit) := do
  modify fun s => { s with
    calls := s.calls ++ [⟨l.label, args⟩]
    callbacks := l.adds.foldl (fun table (event, added) => table.on event added) s.callbacks }
  return l.answer

/-- Runs the listeners of an event. -/
def dispatch (event : String) (args : List Json) : StateM Listeners (Except Error Unit) := do
  (← get).callbacks.dispatch run event args

end Listeners
end UptimeSync
